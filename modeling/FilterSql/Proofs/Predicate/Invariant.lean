import FilterSql.Proofs.Predicate.Step
import FilterSql.Query.Compile

/-!
# Invariants of the aliases

All that the compilation does to the aliases is to register the paths of properties. What these
registrations keep is kept by every filter and by every query, also where they fail.

* `Keeps`: a step keeps an invariant of the aliases.
* `lower_keeps`: filters, by induction on their structure.
* `query_keeps`: the tables of a compiled query.
-/

namespace FilterSql

open FilterSql.Sql (Aliases)

variable {α β : Type} {P : Aliases → Prop}

/-! ## Steps -/

/-- The step keeps an invariant, whether it succeeds or fails. -/
def Keeps (P : Aliases → Prop) (x : Lowering α) : Prop :=
  ∀ a, P a → P (x.run.run a).2

theorem keeps_pure (r : α) : Keeps P (pure r) :=
  fun _ h => h

theorem keeps_throw (e : Error) : Keeps P (throw e : Lowering α) :=
  fun _ h => h

/-- A step that cannot register anything. -/
theorem keeps_lift (x : Except Error α) : Keeps P (liftM x : Lowering α) :=
  fun _ h => h

theorem keeps_bind {x : Lowering α} {f : α → Lowering β} (hHead : Keeps P x)
    (hRest : ∀ r, Keeps P (f r)) : Keeps P (x >>= f) := by
  intro a ha
  have hBetween := hHead a ha
  show P ((ExceptT.bindCont f (x.run.run a).1).run (x.run.run a).2).2
  revert hBetween
  obtain ⟨outcome, b⟩ := x.run.run a
  intro hBetween
  cases outcome with
  | error e => exact hBetween
  | ok r => exact hRest r b hBetween

theorem keeps_map {x : Lowering α} {f : α → β} (h : Keeps P x) : Keeps P (f <$> x) := by
  rw [map_eq_pure_bind]
  exact keeps_bind h fun r => keeps_pure (f r)

theorem keeps_mapM {f : α → Lowering β} (h : ∀ x, Keeps P (f x)) :
    ∀ xs : List α, Keeps P (xs.mapM f)
  | [] => keeps_pure []
  | x :: xs => by
    rw [List.mapM_cons]
    exact keeps_bind (h x) fun _ => keeps_bind (keeps_mapM h xs) fun _ => keeps_pure _

variable {c : Compiler}

/-- To ask for a column keeps what the registration of a property's path keeps. -/
theorem keeps_column (hRegister : ∀ property p a, c.mapping.resolve property = .ok p → P a →
    P (a.register p.joins).2) (property : String) : Keeps P (c.column property) := by
  intro a ha
  unfold Compiler.column
  cases hResolve : c.mapping.resolve property with
  | error e => exact ha
  | ok p => exact hRegister property p a hResolve ha

/-! ## Filters -/

section

variable (hColumn : ∀ property, Keeps P (c.column property))
include hColumn

theorem lowerComparison_keeps (op : ComparisonOp) (left right : Expr) :
    Keeps P (c.lowerComparison op left right) := by
  unfold Compiler.lowerComparison
  refine keeps_bind (keeps_lift _) fun ⟨property, side, value⟩ => ?_
  have hRest : Keeps P (do
      let col ← c.column property
      let value ← (Predicate.coerce property value col.type : Except Error _)
      pure (Sql.Fragment.column col.toColumn ++ .text s!" {side.sql} " ++ .param value)) :=
    keeps_bind (hColumn property) fun _ => keeps_bind (keeps_lift _) fun _ => keeps_pure _
  simp only
  split
  · exact keeps_bind (keeps_throw _) fun _ => hRest
  · exact hRest

theorem lowerBound_keeps (property : String) (col : TypedColumn) (e : Expr) :
    Keeps P (c.lowerBound property col e) := by
  unfold Compiler.lowerBound
  split
  · exact keeps_bind (keeps_lift _) fun _ => keeps_pure _
  · exact keeps_bind (hColumn _) fun _ => keeps_pure _
  · exact keeps_throw _

theorem lowerBetween_keeps (property : String) (low high : Expr) :
    Keeps P (c.lowerBetween property low high) :=
  keeps_bind (hColumn property) fun col =>
    keeps_bind (lowerBound_keeps hColumn property col low) fun _ =>
      keeps_bind (lowerBound_keeps hColumn property col high) fun _ => keeps_pure _

theorem lowerLike_keeps (property : String) (pattern : Expr) (o : LikeOptions) :
    Keeps P (c.lowerLike property pattern o) := by
  unfold Compiler.lowerLike
  refine keeps_bind (keeps_lift _) fun _ => keeps_bind (hColumn property) fun _ => ?_
  simp only
  split
  · exact keeps_bind (keeps_throw _) fun _ => keeps_pure _
  · exact keeps_pure _

theorem timeColumn_keeps (what : String) : Keeps P (c.timeColumn what) := by
  unfold Compiler.timeColumn
  split
  · exact hColumn _
  · exact keeps_throw _

theorem lowerProcedureSet_keeps (ids : List String) : Keeps P (c.lowerProcedureSet ids) := by
  unfold Compiler.lowerProcedureSet
  split
  · exact keeps_pure _
  · split
    · exact keeps_pure _
    · exact keeps_bind (hColumn _) fun _ => keeps_bind (keeps_lift _) fun _ => keeps_pure _

theorem lowerProcedure_keeps (id : String) : Keeps P (c.lowerProcedure id) := by
  unfold Compiler.lowerProcedure
  split
  · exact keeps_pure _
  · exact keeps_bind (hColumn _) fun _ => keeps_bind (keeps_lift _) fun _ => keeps_pure _

theorem geometryColumn_keeps (property : String) : Keeps P (c.geometryColumn property) := by
  unfold Compiler.geometryColumn
  refine keeps_bind (hColumn property) fun _ => ?_
  simp only
  split
  · exact keeps_bind (keeps_throw _) fun _ => keeps_pure _
  · exact keeps_pure _

theorem lowerBbox_keeps (property : String) (e : Envelope) : Keeps P (c.lowerBbox property e) := by
  unfold Compiler.lowerBbox
  refine keeps_bind (keeps_lift _) fun _ => ?_
  split
  · exact keeps_bind (keeps_lift _) fun _ => lowerProcedureSet_keeps hColumn _
  · exact keeps_bind (geometryColumn_keeps hColumn _) fun _ => keeps_pure _

theorem lowerDistance_keeps (op : DistanceOp) (property : String) (center : Point)
    (radius : Float) : Keeps P (c.lowerDistance op property center radius) := by
  unfold Compiler.lowerDistance
  refine keeps_bind (keeps_lift _) fun _ => ?_
  split
  · exact keeps_bind (keeps_lift _) fun _ => lowerProcedureSet_keeps hColumn _
  · refine keeps_bind (geometryColumn_keeps hColumn _) fun _ => ?_
    cases op with
    | within => exact keeps_pure _
    | beyond => exact keeps_pure _

end

mutual

/-- **A filter keeps what columns keep.** -/
theorem lower_keeps (h : ∀ property, Keeps P (c.column property)) :
    ∀ f : Filter, Keeps P (c.lower f)
  | .everything => keeps_pure _
  | .nothing => keeps_pure _
  | .comparison op left right => lowerComparison_keeps h op left right
  | .between property low high => lowerBetween_keeps h property low high
  | .isNull property => keeps_bind (h property) fun _ => keeps_pure _
  | .isNotNull property => keeps_bind (h property) fun _ => keeps_pure _
  | .like property pattern o => lowerLike_keeps h property pattern o
  | .and fs => keeps_map (lowerList_keeps h fs)
  | .or fs => keeps_map (lowerList_keeps h fs)
  | .not f => keeps_map (lower_keeps h f)
  | .during _ => keeps_bind (timeColumn_keeps h _) fun _ => keeps_pure _
  | .instant _ => keeps_bind (timeColumn_keeps h _) fun _ => keeps_pure _
  | .bbox property e => lowerBbox_keeps h property e
  | .distance op property center radius => lowerDistance_keeps h op property center radius
  | .procedure id => lowerProcedure_keeps h id

theorem lowerList_keeps (h : ∀ property, Keeps P (c.column property)) :
    ∀ fs : List Filter, Keeps P (c.lowerList fs)
  | [] => keeps_pure []
  | f :: fs => keeps_bind (lower_keeps h f) fun _ =>
    keeps_bind (lowerList_keeps h fs) fun _ => keeps_pure _

end

/-! ## Queries -/

section

variable (hColumn : ∀ property, Keeps P (c.column property))
include hColumn

theorem outputColumn_keeps (property : String) : Keeps P (c.outputColumn property) :=
  keeps_bind (hColumn property) fun _ => keeps_pure _

theorem lowerQuery_keeps (id : QueryId) (q : Query) : Keeps P (c.lowerQuery id q) := by
  have hFilter : Keeps P (c.lowerOptional q.filter) := by
    unfold Compiler.lowerOptional
    split
    · exact keeps_pure _
    · exact keeps_map (lower_keeps hColumn _)
  have hOrder : ∀ k, Keeps P (c.orderKey k) := fun k =>
    keeps_bind (outputColumn_keeps hColumn k.property) fun _ => keeps_pure _
  refine keeps_bind hFilter fun _ => ?_
  refine keeps_bind (keeps_mapM (outputColumn_keeps hColumn) q.select) fun _ => ?_
  refine keeps_bind (keeps_mapM hOrder q.sort) fun _ => ?_
  exact keeps_bind (fun _ h => h) fun _ => keeps_pure _

/-- **The tables of a compiled query have what the root table has and columns keep.** -/
theorem query_keeps {id : QueryId} {q : Query} {cq : CompiledQuery} (hStart : P c.aliases)
    (h : c.query id q = .ok cq) : P cq.tables := by
  have hEnd := lowerQuery_keeps hColumn id q c.aliases hStart
  have hRun : Yields (c.lowerQuery id q) c.aliases cq ((c.lowerQuery id q).run.run c.aliases).2 :=
    Prod.ext h rfl
  revert hEnd hRun
  generalize ((c.lowerQuery id q).run.run c.aliases).2 = b
  intro hEnd hRun
  unfold Compiler.lowerQuery at hRun
  obtain ⟨_, _, -, hRun⟩ := yields_bind.mp hRun
  obtain ⟨_, _, -, hRun⟩ := yields_bind.mp hRun
  obtain ⟨_, a, -, hRun⟩ := yields_bind.mp hRun
  obtain ⟨tables, a', hTables, hRun⟩ := yields_bind.mp hRun
  obtain ⟨rfl, rfl⟩ := yields_pure.mp hRun
  have e : ((.ok a : Except Error Aliases), a) = (.ok tables, a') := hTables
  obtain ⟨hSame, rfl⟩ := Prod.mk.inj e
  obtain rfl := Except.ok.inj hSame
  exact hEnd

end

end FilterSql
