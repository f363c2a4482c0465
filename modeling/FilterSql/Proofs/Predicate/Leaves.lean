import FilterSql.Proofs.Parallel
import FilterSql.Proofs.Predicate.Operators

/-!
# The leaves of a filter

Whether a filter can be compiled is a matter of its leaves, which are all compiled, from left to
right. What comes of a leaf does not depend on the tables that are joined before it, so that a leaf
which is wrong on its own is wrong under every context, and the first wrong leaf is the one that is
reported.

* `Filter.leaves`: the parts of a filter that are no conjunction, disjunction or negation.
* `SameOutcome`: two steps come to the same, whatever aliases each of them begins with.
* `lower_outcome`: compiling a filter comes to the same as compiling its leaves one by one.
* `compile_checks_leaves`: a filter compiles iff all its leaves do, and the error is that of the
  first one that does not.
-/

namespace FilterSql

open FilterSql.Sql (Aliases DialectKind Fragment)

variable {α α' β β' : Type}

/-! ## Leaves -/

mutual

/-- The parts of a filter that are no conjunction, disjunction or negation, from left to right. -/
def Filter.leaves : Filter → List Filter
  | .and fs => leavesList fs
  | .or fs => leavesList fs
  | .not f => leaves f
  | f => [f]

/-- The leaves of a list of filters. -/
def Filter.leavesList : List Filter → List Filter
  | [] => []
  | f :: fs => leaves f ++ leavesList fs

end

/-! ## Steps that come to the same -/

/-- Whatever aliases each of the steps begins with, their outcomes are related. -/
def SameOutcome (R : α → α' → Prop) (x : Lowering α) (y : Lowering α') : Prop :=
  ∀ a b, Outcomes R (x.run.run a).1 (y.run.run b).1

variable {R : α → α' → Prop} {S : β → β' → Prop}

/-- What comes of a step and its continuation. -/
theorem outcome_bind (x : Lowering α) (f : α → Lowering β) (a : Aliases) :
    ((x >>= f).run.run a).1 =
      match x.run.run a with
      | (.ok r, b) => ((f r).run.run b).1
      | (.error e, _) => .error e := by
  have e : (x >>= f).run.run a = (ExceptT.bindCont f (x.run.run a).1).run (x.run.run a).2 := rfl
  rw [e]
  obtain ⟨outcome, b⟩ := x.run.run a
  cases outcome with
  | ok r => rfl
  | error e => rfl

/-- What is made of a result does not matter for whether there is one. -/
theorem outcome_map_unit (x : Lowering α) (f : α → β) (a : Aliases) :
    ((f <$> x).run.run a).1.map (fun _ => ()) = (x.run.run a).1.map fun _ => () := by
  rw [map_eq_pure_bind, outcome_bind]
  obtain ⟨outcome, b⟩ := x.run.run a
  cases outcome with
  | ok r => rfl
  | error e => rfl

/-- The two steps run in parallel, where all aliases correspond to each other. -/
theorem sameOutcome_iff {x : Lowering α} {y : Lowering α'} :
    SameOutcome R x y ↔ InParallel (fun _ _ => True) R x y :=
  ⟨fun h a b _ => ⟨h a b, trivial⟩, fun h a b => (h a b trivial).1⟩

theorem sameOutcome_pure {r : α} {s : α'} (h : R r s) : SameOutcome R (pure r) (pure s) :=
  sameOutcome_iff.mpr (inParallel_pure h)

theorem sameOutcome_throw (e : Error) :
    SameOutcome R (throw e : Lowering α) (throw e : Lowering α') :=
  sameOutcome_iff.mpr (inParallel_throw e)

/-- A step that cannot register anything comes to the same wherever it stands. -/
theorem sameOutcome_lift (x : Except Error α) :
    SameOutcome Eq (liftM x : Lowering α) (liftM x : Lowering α) :=
  sameOutcome_iff.mpr (inParallel_lift x)

theorem sameOutcome_bind {x : Lowering α} {y : Lowering α'} {f : α → Lowering β}
    {g : α' → Lowering β'} (h : SameOutcome R x y)
    (hRest : ∀ r s, R r s → SameOutcome S (f r) (g s)) : SameOutcome S (x >>= f) (y >>= g) :=
  sameOutcome_iff.mpr
    (inParallel_bind (sameOutcome_iff.mp h) fun r s hR => sameOutcome_iff.mp (hRest r s hR))

/-- Steps with the same results in front of others. -/
theorem sameOutcome_bind_eq {x y : Lowering α} {f : α → Lowering β} {g : α → Lowering β'}
    (h : SameOutcome Eq x y) (hRest : ∀ r, SameOutcome S (f r) (g r)) :
    SameOutcome S (x >>= f) (y >>= g) := by
  refine sameOutcome_bind h fun r s hEq => ?_
  obtain rfl : r = s := hEq
  exact hRest r

/-- The conditions of a filter differ in the aliases of their tables; that there is one does not. -/
def Both (_ : α) (_ : α') : Prop :=
  True

theorem sameOutcome_done {r : α} {s : α'} : SameOutcome Both (pure r) (pure s) :=
  sameOutcome_pure trivial

namespace Compiler

variable (c : Compiler)

/-! ## Operators -/

/-- A property is of the same type under every alias. -/
theorem column_sameOutcome (p : String) :
    SameOutcome (fun x y => x.type = y.type) (c.column p) (c.column p) := by
  refine sameOutcome_bind_eq (sameOutcome_lift _) fun q => ?_
  refine sameOutcome_bind (R := Both) (fun _ _ => .ok trivial) fun name name' _ => ?_
  exact sameOutcome_pure rfl

/-- A column in front of a step that needs its type only. -/
theorem column_bind_sameOutcome (p : String) {f : TypedColumn → Lowering β}
    {g : TypedColumn → Lowering β'} (hRest : ∀ x y, x.type = y.type → SameOutcome S (f x) (g y)) :
    SameOutcome S (c.column p >>= f) (c.column p >>= g) :=
  sameOutcome_bind (c.column_sameOutcome p) hRest

theorem lowerComparison_sameOutcome (op : ComparisonOp) (l r : Expr) :
    SameOutcome Both (c.lowerComparison op l r) (c.lowerComparison op l r) := by
  refine sameOutcome_bind_eq (sameOutcome_lift _) fun ⟨p, op', v⟩ => ?_
  simp only
  split
  · exact sameOutcome_throw _
  · refine c.column_bind_sameOutcome p fun x y hType => ?_
    rw [hType]
    exact sameOutcome_bind_eq (sameOutcome_lift _) fun w => sameOutcome_done

theorem lowerBound_sameOutcome (p : String) {x y : TypedColumn} (hType : x.type = y.type)
    (e : Expr) : SameOutcome Both (c.lowerBound p x e) (c.lowerBound p y e) := by
  cases e with
  | literal v =>
    unfold lowerBound
    rw [hType]
    exact sameOutcome_bind_eq (sameOutcome_lift _) fun w => sameOutcome_done
  | property other => exact c.column_bind_sameOutcome other fun _ _ _ => sameOutcome_done
  | arithmetic => exact sameOutcome_throw _
  | function => exact sameOutcome_throw _

theorem lowerBetween_sameOutcome (p : String) (l r : Expr) :
    SameOutcome Both (c.lowerBetween p l r) (c.lowerBetween p l r) := by
  refine c.column_bind_sameOutcome p fun x y hType => ?_
  refine sameOutcome_bind (c.lowerBound_sameOutcome p hType l) fun _ _ _ => ?_
  refine sameOutcome_bind (c.lowerBound_sameOutcome p hType r) fun _ _ _ => ?_
  exact sameOutcome_done

theorem lowerNullTest_sameOutcome (p suffix : String) :
    SameOutcome Both (c.lowerNullTest p suffix) (c.lowerNullTest p suffix) :=
  c.column_bind_sameOutcome p fun _ _ _ => sameOutcome_done

theorem lowerLike_sameOutcome (p : String) (e : Expr) (o : LikeOptions) :
    SameOutcome Both (c.lowerLike p e o) (c.lowerLike p e o) := by
  refine sameOutcome_bind_eq (sameOutcome_lift _) fun text => ?_
  refine c.column_bind_sameOutcome p fun x y hType => ?_
  simp only [hType]
  split
  · exact sameOutcome_throw _
  · exact sameOutcome_done

theorem timeColumn_sameOutcome (what : String) :
    SameOutcome (fun x y => x.type = y.type) (c.timeColumn what) (c.timeColumn what) := by
  unfold timeColumn
  split
  · exact c.column_sameOutcome _
  · exact sameOutcome_throw _

theorem lowerDuring_sameOutcome (r : TemporalRange) :
    SameOutcome Both (c.lowerDuring r) (c.lowerDuring r) :=
  sameOutcome_bind (c.timeColumn_sameOutcome _) fun _ _ _ => sameOutcome_done

theorem lowerInstant_sameOutcome (t : Time.Instant) :
    SameOutcome Both (c.lowerInstant t) (c.lowerInstant t) :=
  sameOutcome_bind (c.timeColumn_sameOutcome _) fun _ _ _ => sameOutcome_done

theorem lowerProcedureSet_sameOutcome (ids : List String) :
    SameOutcome Both (c.lowerProcedureSet ids) (c.lowerProcedureSet ids) := by
  unfold lowerProcedureSet
  split
  · exact sameOutcome_done
  · split
    · exact sameOutcome_done
    · rename_i p _
      refine c.column_bind_sameOutcome p fun x y hType => ?_
      rw [hType]
      exact sameOutcome_bind_eq (sameOutcome_lift _) fun values => sameOutcome_done

theorem lowerProcedure_sameOutcome (id : String) :
    SameOutcome Both (c.lowerProcedure id) (c.lowerProcedure id) := by
  unfold lowerProcedure
  split
  · exact sameOutcome_done
  · rename_i p _
    refine c.column_bind_sameOutcome p fun x y hType => ?_
    rw [hType]
    exact sameOutcome_bind_eq (sameOutcome_lift _) fun value => sameOutcome_done

theorem geometryColumn_sameOutcome (p : String) :
    SameOutcome Both (c.geometryColumn p) (c.geometryColumn p) := by
  refine c.column_bind_sameOutcome p fun x y hType => ?_
  simp only [hType]
  split
  · exact sameOutcome_throw _
  · exact sameOutcome_done

theorem lowerBbox_sameOutcome (p : String) (e : Envelope) :
    SameOutcome Both (c.lowerBbox p e) (c.lowerBbox p e) := by
  refine sameOutcome_bind_eq (sameOutcome_lift _) fun _ => ?_
  split
  · exact sameOutcome_bind_eq (sameOutcome_lift _) fun ids => c.lowerProcedureSet_sameOutcome ids
  · exact sameOutcome_bind (c.geometryColumn_sameOutcome p) fun _ _ _ => sameOutcome_done

theorem lowerDistance_sameOutcome (op : DistanceOp) (p : String) (center : Point)
    (radius : Float) :
    SameOutcome Both (c.lowerDistance op p center radius) (c.lowerDistance op p center radius) := by
  refine sameOutcome_bind_eq (sameOutcome_lift _) fun _ => ?_
  split
  · exact sameOutcome_bind_eq (sameOutcome_lift _) fun ids => c.lowerProcedureSet_sameOutcome ids
  · refine sameOutcome_bind (c.geometryColumn_sameOutcome p) fun _ _ _ => ?_
    cases op with
    | within => exact sameOutcome_done
    | beyond => exact sameOutcome_done

/-! ## Filters -/

/-- What comes of compiling a filter on its own: nothing, or an error. -/
def check (f : Filter) : Except Error Unit :=
  (c.compile f c.aliases).1.map fun _ => ()

variable {c}

/-- A leaf comes to what it comes to on its own, whatever aliases there are. -/
theorem leaf_outcome (leaf : Filter) (h : SameOutcome Both (c.lower leaf) (c.lower leaf))
    (hLeaf : leaf.leaves = [leaf]) (a : Aliases) :
    ((c.lower leaf).run.run a).1.map (fun _ => ()) = leaf.leaves.forM c.check := by
  have hAlone : ((c.lower leaf).run.run a).1.map (fun _ => ()) = c.check leaf :=
    (h a c.aliases).map_unit
  rw [hAlone, hLeaf]
  show c.check leaf = (c.check leaf >>= fun _ => .ok ())
  cases c.check leaf with
  | ok u => rfl
  | error e => rfl

mutual

/-- **Compiling a filter comes to the same as compiling its leaves one by one**, each on its own, up
to the first error. -/
theorem lower_outcome : ∀ (f : Filter) (a : Aliases),
    ((c.lower f).run.run a).1.map (fun _ => ()) = f.leaves.forM c.check
  | .everything, a => leaf_outcome .everything sameOutcome_done rfl a
  | .nothing, a => leaf_outcome .nothing sameOutcome_done rfl a
  | .comparison op l r, a =>
    leaf_outcome (.comparison op l r) (c.lowerComparison_sameOutcome op l r) rfl a
  | .between p l r, a => leaf_outcome (.between p l r) (c.lowerBetween_sameOutcome p l r) rfl a
  | .isNull p, a => leaf_outcome (.isNull p) (c.lowerNullTest_sameOutcome p _) rfl a
  | .isNotNull p, a => leaf_outcome (.isNotNull p) (c.lowerNullTest_sameOutcome p _) rfl a
  | .like p e o, a => leaf_outcome (.like p e o) (c.lowerLike_sameOutcome p e o) rfl a
  | .and fs, a => (outcome_map_unit _ _ a).trans (lowerList_outcome fs a)
  | .or fs, a => (outcome_map_unit _ _ a).trans (lowerList_outcome fs a)
  | .not f, a => (outcome_map_unit _ _ a).trans (lower_outcome f a)
  | .during r, a => leaf_outcome (.during r) (c.lowerDuring_sameOutcome r) rfl a
  | .instant t, a => leaf_outcome (.instant t) (c.lowerInstant_sameOutcome t) rfl a
  | .bbox p e, a => leaf_outcome (.bbox p e) (c.lowerBbox_sameOutcome p e) rfl a
  | .distance op p center radius, a =>
    leaf_outcome (.distance op p center radius)
      (c.lowerDistance_sameOutcome op p center radius) rfl a
  | .procedure id, a => leaf_outcome (.procedure id) (c.lowerProcedure_sameOutcome id) rfl a

theorem lowerList_outcome : ∀ (fs : List Filter) (a : Aliases),
    ((c.lowerList fs).run.run a).1.map (fun _ => ()) = (Filter.leavesList fs).forM c.check
  | [], _ => rfl
  | f :: fs, a => by
    have hHead := lower_outcome f a
    have hTail := lowerList_outcome fs
    show ((c.lower f >>= fun head => (head :: ·) <$> c.lowerList fs).run.run a).1.map _ =
      (f.leaves ++ Filter.leavesList fs).forM c.check
    rw [outcome_bind, forM_append, ← hHead]
    obtain ⟨outcome, b⟩ := (c.lower f).run.run a
    cases outcome with
    | error e => rfl
    | ok head => exact (outcome_map_unit _ _ b).trans (hTail b)

end

end Compiler

/-! ## The first wrong leaf -/

/-- The filter can be compiled on its own. -/
def Compiler.Accepts (c : Compiler) (f : Filter) : Prop :=
  ∃ condition, (c.compile f c.aliases).1 = .ok condition

theorem map_unit_ok {x : Except Error α} :
    x.map (fun _ => ()) = .ok () ↔ ∃ r, x = .ok r := by
  rw [except_map_ok]
  exact exists_congr fun r => and_iff_left rfl

/-- **A filter compiles iff all its leaves do, and else fails like the first one that does not.**
Every leaf is compiled on its own, with fresh aliases; the filter can be compiled with any aliases,
also those of filters before it. -/
theorem compile_checks_leaves (m : Mapping) (d : DialectKind) (catalog : Option Catalog)
    (f : Filter) (a : Aliases) :
    let c := Compiler.ofKind m d catalog
    ((∃ condition, (c.compile f a).1 = .ok condition) ↔ ∀ leaf ∈ f.leaves, c.Accepts leaf) ∧
    ∀ e, (c.compile f a).1 = .error e ↔
      ∃ before leaf after, f.leaves = before ++ leaf :: after ∧
        (∀ g ∈ before, c.Accepts g) ∧ (c.compile leaf c.aliases).1 = .error e := by
  intro c
  have hOutcome : ((c.compile f a).1.map fun _ => ()) = f.leaves.forM c.check :=
    Compiler.lower_outcome f a
  have hAccepts : ∀ leaf, c.check leaf = .ok () ↔ c.Accepts leaf := fun _ => map_unit_ok
  have hRefuses : ∀ leaf e, c.check leaf = .error e ↔
      (c.compile leaf c.aliases).1 = .error e := fun _ _ => except_map_error
  constructor
  · rw [← map_unit_ok, hOutcome, forM_ok]
    exact forall₂_congr fun leaf _ => hAccepts leaf
  · intro e
    rw [← except_map_error, hOutcome, forM_error]
    simp only [hAccepts, hRefuses]

/-- No record meets the conjunction, whatever its second part says, and its last two leaves are both
wrong. -/
def hiddenFilter : Filter :=
  .and [.nothing, .not (.or [.isNull "keyword", .compare .eq "author" (.text "a")]),
    .compare .lt "year" (.text "long ago")]

theorem compile_checks_leaves_hidden :
    let c := Compiler.ofKind .sample .sqlite none
    (c.compile hiddenFilter c.aliases).1 = .error (.unknownProperty "author") ∧
      ¬ ∃ condition, (c.compile hiddenFilter c.aliases).1 = .ok condition := by
  intro c
  obtain ⟨hAccepts, hError⟩ := compile_checks_leaves .sample .sqlite none hiddenFilter c.aliases
  have hFirst : (c.compile hiddenFilter c.aliases).1 = .error (.unknownProperty "author") := by
    refine (hError _).mpr ⟨[.nothing, .isNull "keyword"], .compare .eq "author" (.text "a"),
      [.compare .lt "year" (.text "long ago")], rfl, ?_, by rfl⟩
    intro g hg
    rcases List.mem_pair.mp hg with rfl | rfl
    · exact ⟨_, rfl⟩
    · exact ⟨_, by rfl⟩
  refine ⟨hFirst, fun h => ?_⟩
  obtain ⟨_, hYear⟩ := hAccepts.mp h (.compare .lt "year" (.text "long ago")) (by
    simp [hiddenFilter, Filter.leaves, Filter.leavesList, Filter.compare])
  have hRefused : (c.compile (.compare .lt "year" (.text "long ago")) c.aliases).1 =
      .error (.invalidLiteral "year" "long ago" "integer") := by decide +kernel
  exact absurd (hYear.symm.trans hRefused) (by simp)

end FilterSql
