import FilterSql.Proofs.Sql.Written
import FilterSql.Sql.Placeholder

/-!
# Placeholders and parameters

The counter of placeholders looks at a text from left to right and keeps the quote that is open. A
fragment is balanced if it leaves no quote open and has a placeholder for each of its parameters, in
front of whatever follows. Balanced fragments can be put together in any way.

* `Quiet`: a text without placeholders that leaves no quote open.
* `Balanced`: a fragment with as many placeholders as parameters that leaves no quote open.
* `Condition.WellFormed.balanced`: well-formed conditions are balanced.
* `Balanced.placeholderCount`: the placeholders of a balanced fragment are its parameters.
-/

namespace FilterSql.Sql

/-! ## Texts -/

/-- A text that adds no placeholder to whatever follows. -/
def Quiet (s : String) : Prop :=
  ∀ rest, countFrom none (s.toList ++ rest) = countFrom none rest

theorem Quiet.append {s t : String} (hs : Quiet s) (ht : Quiet t) : Quiet (s ++ t) := by
  intro rest
  rw [String.toList_append, List.append_assoc, hs, ht]

theorem countFrom_cons {c : Char} (hQuote : c ≠ '\'') (hDouble : c ≠ '"') (hMark : c ≠ '?')
    (rest : List Char) : countFrom none (c :: rest) = countFrom none rest := by
  rw [countFrom, if_neg (not_or.mpr ⟨hQuote, hDouble⟩), if_neg hMark]

/-- Words are quiet. -/
theorem quiet_of_isWordChar {s : String} (h : ∀ c ∈ s.toList, isWordChar c = true) : Quiet s := by
  have hList : ∀ (cs : List Char), (∀ c ∈ cs, isWordChar c = true) → ∀ rest,
      countFrom none (cs ++ rest) = countFrom none rest := by
    intro cs
    induction cs with
    | nil => exact fun _ _ => rfl
    | cons c cs ih =>
      intro h rest
      have hc := h c List.mem_cons_self
      rw [List.cons_append, countFrom_cons (ne_of_isWordChar hc (by decide))
        (ne_of_isWordChar hc (by decide)) (ne_of_isWordChar hc (by decide))]
      exact ih (fun d hd => h d (List.mem_cons_of_mem c hd)) rest
  exact hList s.toList h

theorem quiet_of_plain {s : String} (h : PlainName s) : Quiet s :=
  quiet_of_isWordChar fun c hc => isWordChar_of_isNameChar (h.chars c hc)

theorem quiet_column {c : Column} (hq : PlainName c.qualifier) (hn : PlainName c.name) :
    Quiet c.sql :=
  quiet_of_isWordChar fun _ hd => isWordChar_of_mem_column hq hn hd

theorem countFrom_some {q : Char} {cs : List Char} (h : q ∉ cs) (rest : List Char) :
    countFrom (some q) (cs ++ q :: rest) = countFrom none rest := by
  induction cs with
  | nil =>
    show countFrom (if q = q then none else some q) rest = _
    rw [if_pos rfl]
  | cons c cs ih =>
    obtain ⟨hc, hcs⟩ := List.ne_and_not_mem_of_not_mem_cons h
    rw [List.cons_append, countFrom, if_neg (Ne.symm hc)]
    exact ih hcs

/-- What stands in quotes is not looked at. -/
theorem quiet_quoted {s : String} (h : '\'' ∉ s.toList) : Quiet ("'" ++ s ++ "'") := by
  intro rest
  have e : ("'" ++ s ++ "'").toList ++ rest = '\'' :: (s.toList ++ '\'' :: rest) := by simp
  rw [e]
  exact countFrom_some h rest

/-! ## Fragments -/

/-- A fragment with a placeholder for each parameter that leaves no quote open. -/
def Balanced (f : Fragment) : Prop :=
  ∀ rest, countFrom none (f.sql.toList ++ rest) = f.params.length + countFrom none rest

theorem Balanced.append {f g : Fragment} (hf : Balanced f) (hg : Balanced g) :
    Balanced (f ++ g) := by
  intro rest
  rw [Fragment.sql_append, String.toList_append, List.append_assoc, hf, hg, Fragment.params_append,
    List.length_append, Nat.add_assoc]

theorem Quiet.balanced {s : String} (h : Quiet s) : Balanced (.text s) := by
  intro rest
  rw [Fragment.sql_text, Fragment.params_text, List.length_nil, Nat.zero_add]
  exact h rest

theorem balanced_param (v : Scalar) : Balanced (.param v) := by
  intro rest
  rw [Fragment.sql_param, Fragment.params_param, List.length_singleton, Nat.add_comm]
  rfl

theorem balanced_empty : Balanced .empty := by
  intro rest
  rw [Fragment.params_empty, List.length_nil, Nat.zero_add]
  rfl

theorem Balanced.parenthesized {f : Fragment} (h : Balanced f) :
    Balanced (.text "(" ++ f ++ .text ")") := by
  have hOpening : Quiet "(" := fun _ => rfl
  have hClosing : Quiet ")" := fun _ => rfl
  exact (hOpening.balanced.append h).append hClosing.balanced

/-- Fragments with a quiet text between them. -/
theorem Balanced.separated {f g : Fragment} (hf : Balanced f) (hg : Balanced g) (s : String)
    (hs : Quiet s) : Balanced (f ++ .text s ++ g) :=
  (hf.append hs.balanced).append hg

/-- The placeholders of a balanced fragment are its parameters. -/
theorem Balanced.placeholderCount {f : Fragment} (h : Balanced f) :
    f.placeholderCount = f.params.length := by
  have h' := h []
  rw [List.append_nil] at h'
  exact h'

theorem Balanced.verify {f : Fragment} (h : Balanced f) : f.verify = .ok () := by
  unfold Fragment.verify checkParity
  simp only
  exact if_pos h.placeholderCount

/-! ## Conditions -/

namespace Term

theorem balanced_list {as : List Term} (h : ∀ a ∈ as, Balanced a.fragment) :
    Balanced (fragmentList as) := by
  match as with
  | [] => exact balanced_empty
  | [a] => exact h a List.mem_cons_self
  | a :: b :: as =>
    rw [fragmentList]
    have hRest := balanced_list fun d hd => h d (List.mem_cons_of_mem a hd)
    exact (h a List.mem_cons_self).separated hRest ", " fun _ => rfl

theorem WellFormed.balanced {a : Term} (h : a.WellFormed) : Balanced a.fragment := by
  induction h with
  | column hq hn => exact (quiet_column hq hn).balanced
  | value v => exact balanced_param v
  | number n => exact (quiet_of_isWordChar fun _ hd => isWordChar_of_mem_repr hd).balanced
  | call hf _ _ ih =>
    rw [fragment]
    exact (quiet_of_plain hf.plain).balanced.append (balanced_list ih).parenthesized

end Term

/-- **Well-formed conditions are balanced.** -/
theorem Condition.WellFormed.balanced {c : Condition} (h : c.WellFormed) :
    Balanced c.fragment := by
  have hNull : Quiet "NULL" := fun _ => rfl
  induction h with
  | compare op hl hr =>
    exact hl.balanced.separated hr.balanced _ (by cases op <;> exact fun _ => rfl)
  | between hs hLow hHigh =>
    have hStart := hs.balanced.separated hLow.balanced " BETWEEN " fun _ => rfl
    exact hStart.separated hHigh.balanced " AND " fun _ => rfl
  | isNull hs => exact hs.balanced.separated hNull.balanced " IS " fun _ => rfl
  | isNotNull hs => exact hs.balanced.separated hNull.balanced " IS NOT " fun _ => rfl
  | @like s p escape hs hp he =>
    have hLike := hs.balanced.separated hp.balanced " LIKE " fun _ => rfl
    cases escape with
    | none => exact hLike
    | some e => exact hLike.separated (quiet_quoted (he e rfl)).balanced " ESCAPE " fun _ => rfl
  | isIn hs _ hcs =>
    have hList := Term.balanced_list fun c hc => (hcs c hc).balanced
    exact hs.balanced.separated hList.parenthesized " IN " fun _ => rfl
  | overlaps hl hr => exact hl.balanced.separated hr.balanced " && " fun _ => rfl
  | test hs => exact hs.balanced
  | not _ _ ih =>
    have hNot : Quiet "NOT " := fun _ => rfl
    exact hNot.balanced.append ih
  | and _ _ _ _ ihc ihd => exact ihc.separated ihd " AND " fun _ => rfl
  | or _ _ _ ihc ihd => exact ihc.separated ihd " OR " fun _ => rfl
  | group _ ih => exact ih.parenthesized

end FilterSql.Sql
