import FilterSql.Proofs.Filter.Meaning
import FilterSql.Proofs.Predicate.Step
import FilterSql.Proofs.Sql.Written
import Mathlib.Data.List.Forall2

/-!
# Conditions that say what filters mean

A condition speaks of columns, a filter of properties. The condition of a filter is well formed,
says nothing of tables that the statement does not join, and has the filter's truth value on every
row that holds the properties of a record.

* `Agrees`: a row holds the properties of a record.
* `TermMeans`, `Means`: an operand has a value, and a condition a truth value, on such rows.
* `Denotes`: a fragment is the text of such a condition.
-/

namespace FilterSql

open FilterSql.Sql (Aliases Column Condition Fragment Interpretation Term Tuple)

/-! ## Fragments with the same text -/

/-- Fragments with the same text and the same parameters. -/
def Sql.Fragment.Same (f g : Fragment) : Prop :=
  f.sql = g.sql ∧ f.params = g.params

theorem Sql.Fragment.same_of_toList {f g : Fragment} (hSql : f.sql.toList = g.sql.toList)
    (hParams : f.params = g.params) : f.Same g :=
  ⟨String.toList_inj.mp hSql, hParams⟩

theorem Sql.Fragment.Same.append {f f' g g' : Fragment} (hf : f.Same f') (hg : g.Same g') :
    (f ++ g).Same (f' ++ g') := by
  obtain ⟨hfSql, hfParams⟩ := hf
  obtain ⟨hgSql, hgParams⟩ := hg
  constructor
  · rw [Fragment.sql_append, Fragment.sql_append, hfSql, hgSql]
  · rw [Fragment.params_append, Fragment.params_append, hfParams, hgParams]

theorem Sql.Fragment.Same.parenthesized {f g : Fragment} (h : f.Same g) :
    (Compiler.parenthesized f).Same (.text "(" ++ g ++ .text ")") :=
  (Same.append ⟨rfl, rfl⟩ h).append ⟨rfl, rfl⟩

/-! ## Rows -/

/-- The rows have the same values in the tables of the given names. -/
def SameOn (names : List String) (row row' : Tuple) : Prop :=
  ∀ c : Column, c.qualifier ∈ names → row c = row' c

/-- The row holds the properties of a record, as far as the statement joins their tables. -/
def Agrees (m : Mapping) (a : Aliases) (row : Tuple) (values : Values) : Prop :=
  ∀ property p name, m.resolve property = .ok p → a.Registered p.joins.reverse name →
    row ⟨name, p.column⟩ = values property

theorem SameOn.mono {a b : Aliases} {row row' : Tuple} (h : SameOn b.names row row')
    (hab : a.Extends b) : SameOn a.names row row' :=
  fun c hc => h c (hab.names_start.subset hc)

theorem Agrees.mono {m : Mapping} {a b : Aliases} {row : Tuple} {values : Values}
    (h : Agrees m b row values) (hab : a.Extends b) : Agrees m a row values :=
  fun property p name hResolve hReg => h property p name hResolve (hReg.mono hab)

/-! ## Operands -/

/-- A value that depends on the properties of a record. -/
abbrev Reading := Interpretation → Values → Scalar

/-- A truth value that depends on the properties of a record. -/
abbrev Meaning := Interpretation → Values → Truth

/-- The operand has the value `v` on every row that holds the properties of a record. -/
structure TermMeans (m : Mapping) (a : Aliases) (term : Term) (v : Reading) : Prop where
  wellFormed : term.WellFormed
  scope : ∀ I row row', SameOn a.names row row' → term.eval I row = term.eval I row'
  value : ∀ I row values, Agrees m a row values → term.eval I row = v I values

/-- The condition has the truth value `t` on every row that holds the properties of a record. -/
structure Means (m : Mapping) (a : Aliases) (cond : Condition) (t : Meaning) : Prop where
  wellFormed : cond.WellFormed
  scope : ∀ I row row', SameOn a.names row row' → cond.eval I row = cond.eval I row'
  truth : ∀ I row values, Agrees m a row values → cond.eval I row = t I values

/-- The fragment is the text of a condition with the truth value `t`. -/
def Denotes (m : Mapping) (a : Aliases) (f : Fragment) (t : Meaning) : Prop :=
  ∃ cond : Condition, f.Same cond.fragment ∧ Means m a cond t

variable {m : Mapping} {a b : Aliases}

theorem TermMeans.mono {term : Term} {v : Reading} (h : TermMeans m a term v)
    (hab : a.Extends b) : TermMeans m b term v where
  wellFormed := h.wellFormed
  scope I row row' hSame := h.scope I row row' (hSame.mono hab)
  value I row values hAgrees := h.value I row values (hAgrees.mono hab)

theorem Means.mono {cond : Condition} {t : Meaning} (h : Means m a cond t)
    (hab : a.Extends b) : Means m b cond t where
  wellFormed := h.wellFormed
  scope I row row' hSame := h.scope I row row' (hSame.mono hab)
  truth I row values hAgrees := h.truth I row values (hAgrees.mono hab)

theorem Denotes.mono {f : Fragment} {t : Meaning} (h : Denotes m a f t) (hab : a.Extends b) :
    Denotes m b f t := by
  obtain ⟨cond, hSame, hMeans⟩ := h
  exact ⟨cond, hSame, hMeans.mono hab⟩

theorem Means.congr {cond : Condition} {t t' : Meaning} (h : Means m a cond t)
    (e : ∀ I values, t I values = t' I values) : Means m a cond t' := by
  have hEq : t = t' := by
    funext I values
    exact e I values
  rw [← hEq]
  exact h

/-- The column of a property has the value of the property. -/
theorem means_column {property : String} {col : TypedColumn} (ha : a.Sound)
    (h : Locates m a property col) :
    TermMeans m a (.column col.toColumn) fun _ values => values property := by
  obtain ⟨hMem, hQualifier, hName⟩ := h.plain ha
  refine ⟨.column hQualifier hName, fun I row row' hSame => hSame _ hMem, ?_⟩
  intro I row values hAgrees
  obtain ⟨p, hResolve, hReg, hColumn, -⟩ := h.located
  have hRow := hAgrees property p col.qualifier hResolve hReg
  rw [← hColumn] at hRow
  exact hRow

theorem means_value (v : Scalar) : TermMeans m a (.value v) fun _ _ => v :=
  ⟨.value v, fun _ _ _ _ => rfl, fun _ _ _ _ => rfl⟩

theorem means_number (n : Nat) :
    TermMeans m a (.number n) fun _ _ => .integer (Int64.ofNat n) :=
  ⟨.number n, fun _ _ _ _ => rfl, fun _ _ _ _ => rfl⟩

/-- Operands with the given values. -/
abbrev ListMeans (m : Mapping) (a : Aliases) : List Term → List Reading → Prop :=
  List.Forall₂ (TermMeans m a)

theorem ListMeans.wellFormed {args : List Term} {vs : List Reading} (h : ListMeans m a args vs) :
    ∀ arg ∈ args, arg.WellFormed := by
  induction h with
  | nil => exact fun _ hMem => absurd hMem List.not_mem_nil
  | cons hArg _ ih => exact List.forall_mem_cons.mpr ⟨hArg.wellFormed, ih⟩

theorem ListMeans.scope {args : List Term} {vs : List Reading} (h : ListMeans m a args vs)
    (I : Interpretation) {row row' : Tuple} (hSame : SameOn a.names row row') :
    Term.evalList I row args = Term.evalList I row' args := by
  induction h with
  | nil => rfl
  | cons hArg _ ih => rw [Term.evalList, Term.evalList, hArg.scope I row row' hSame, ih]

theorem ListMeans.value {args : List Term} {vs : List Reading} (h : ListMeans m a args vs)
    (I : Interpretation) {row : Tuple} {values : Values} (hAgrees : Agrees m a row values) :
    Term.evalList I row args = vs.map fun v => v I values := by
  induction h with
  | nil => rfl
  | cons hArg _ ih => rw [Term.evalList, List.map_cons, hArg.value I row values hAgrees, ih]

theorem means_call {f : String} {args : List Term} {vs : List Reading} (hf : Term.FunctionName f)
    (hne : args ≠ []) (h : ListMeans m a args vs) :
    TermMeans m a (.call f args) fun I values => I.call f (vs.map fun v => v I values) where
  wellFormed := .call hf hne h.wellFormed
  scope I row row' hSame := by rw [Term.eval, Term.eval, h.scope I hSame]
  value I row values hAgrees := by rw [Term.eval, h.value I hAgrees]

/-! ## Predicates -/

variable {l r s : Term} {u v w : Reading}

theorem means_compare (op : ComparisonOp) (hl : TermMeans m a l u) (hr : TermMeans m a r v) :
    Means m a (.compare op l r) fun I values => I.compare op (u I values) (v I values) where
  wellFormed := .compare op hl.wellFormed hr.wellFormed
  scope I row row' hSame := by
    rw [Condition.eval, Condition.eval, hl.scope I row row' hSame, hr.scope I row row' hSame]
  truth I row values hAgrees := by
    rw [Condition.eval, hl.value I row values hAgrees, hr.value I row values hAgrees]

theorem means_between (hs : TermMeans m a s u) (hl : TermMeans m a l v) (hr : TermMeans m a r w) :
    Means m a (.between s l r) fun I values =>
      I.between (u I values) (v I values) (w I values) where
  wellFormed := .between hs.wellFormed hl.wellFormed hr.wellFormed
  scope I row row' hSame := by
    rw [Condition.eval, Condition.eval, hs.scope I row row' hSame, hl.scope I row row' hSame,
      hr.scope I row row' hSame]
  truth I row values hAgrees := by
    rw [Condition.eval, hs.value I row values hAgrees, hl.value I row values hAgrees,
      hr.value I row values hAgrees]

theorem means_isNull (hs : TermMeans m a s u) :
    Means m a (.isNull s) fun I values => .ofBool (u I values).isNull where
  wellFormed := .isNull hs.wellFormed
  scope I row row' hSame := by rw [Condition.eval, Condition.eval, hs.scope I row row' hSame]
  truth I row values hAgrees := by rw [Condition.eval, hs.value I row values hAgrees]

theorem means_isNotNull (hs : TermMeans m a s u) :
    Means m a (.isNotNull s) fun I values => .ofBool !(u I values).isNull where
  wellFormed := .isNotNull hs.wellFormed
  scope I row row' hSame := by rw [Condition.eval, Condition.eval, hs.scope I row row' hSame]
  truth I row values hAgrees := by rw [Condition.eval, hs.value I row values hAgrees]

theorem means_like {escape : Option String} (hs : TermMeans m a s u) (hr : TermMeans m a r v)
    (hEscape : ∀ e, escape = some e → '\'' ∉ e.toList) :
    Means m a (.like s r escape) fun I values => I.like (u I values) (v I values) escape where
  wellFormed := .like hs.wellFormed hr.wellFormed hEscape
  scope I row row' hSame := by
    rw [Condition.eval, Condition.eval, hs.scope I row row' hSame, hr.scope I row row' hSame]
  truth I row values hAgrees := by
    rw [Condition.eval, hs.value I row values hAgrees, hr.value I row values hAgrees]

theorem means_isIn {cs : List Term} {vs : List Reading} (hs : TermMeans m a s u) (hne : cs ≠ [])
    (h : ListMeans m a cs vs) :
    Means m a (.isIn s cs) fun I values =>
      I.isIn (u I values) (vs.map fun v => v I values) where
  wellFormed := .isIn hs.wellFormed hne h.wellFormed
  scope I row row' hSame := by
    rw [Condition.eval, Condition.eval, hs.scope I row row' hSame, h.scope I hSame]
  truth I row values hAgrees := by
    rw [Condition.eval, hs.value I row values hAgrees, h.value I hAgrees]

theorem means_overlaps (hl : TermMeans m a l u) (hr : TermMeans m a r v) :
    Means m a (.overlaps l r) fun I values => I.overlaps (u I values) (v I values) where
  wellFormed := .overlaps hl.wellFormed hr.wellFormed
  scope I row row' hSame := by
    rw [Condition.eval, Condition.eval, hl.scope I row row' hSame, hr.scope I row row' hSame]
  truth I row values hAgrees := by
    rw [Condition.eval, hl.value I row values hAgrees, hr.value I row values hAgrees]

theorem means_test (hs : TermMeans m a s u) :
    Means m a (.test s) fun I values => I.test (u I values) where
  wellFormed := .test hs.wellFormed
  scope I row row' hSame := by rw [Condition.eval, Condition.eval, hs.scope I row row' hSame]
  truth I row values hAgrees := by rw [Condition.eval, hs.value I row values hAgrees]

/-! ## Combinations -/

variable {c d : Condition} {t t' : Meaning}

theorem means_group (h : Means m a c t) : Means m a (.group c) t where
  wellFormed := .group h.wellFormed
  scope I row row' hSame := by rw [Condition.eval, Condition.eval, h.scope I row row' hSame]
  truth I row values hAgrees := by rw [Condition.eval, h.truth I row values hAgrees]

theorem means_not (h : Means m a c t) (hLevel : c.level = 0) :
    Means m a (.not c) fun I values => (t I values).not where
  wellFormed := .not h.wellFormed hLevel
  scope I row row' hSame := by rw [Condition.eval, Condition.eval, h.scope I row row' hSame]
  truth I row values hAgrees := by rw [Condition.eval, h.truth I row values hAgrees]

theorem means_and (hc : Means m a c t) (hd : Means m a d t') (hcLevel : c.level = 0)
    (hdLevel : d.level ≤ 1) :
    Means m a (.and c d) fun I values => (t I values).and (t' I values) where
  wellFormed := .and hc.wellFormed hd.wellFormed hcLevel hdLevel
  scope I row row' hSame := by
    rw [Condition.eval, Condition.eval, hc.scope I row row' hSame, hd.scope I row row' hSame]
  truth I row values hAgrees := by
    rw [Condition.eval, hc.truth I row values hAgrees, hd.truth I row values hAgrees]

theorem means_or (hc : Means m a c t) (hd : Means m a d t') (hcLevel : c.level ≤ 1) :
    Means m a (.or c d) fun I values => (t I values).or (t' I values) where
  wellFormed := .or hc.wellFormed hd.wellFormed hcLevel
  scope I row row' hSame := by
    rw [Condition.eval, Condition.eval, hc.scope I row row' hSame, hd.scope I row row' hSame]
  truth I row values hAgrees := by
    rw [Condition.eval, hc.truth I row values hAgrees, hd.truth I row values hAgrees]

end FilterSql
