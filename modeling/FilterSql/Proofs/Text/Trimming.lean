import FilterSql.Text.Blank

/-!
# Trimmed texts

Trimming takes the blanks off both ends of a text. What is left is told apart from them if it has no
blanks itself.

* `Padded`: a text that consists of another one with blanks around it.
* `padded_iff`: that is the trimmed text, if it holds no blanks.
-/

namespace FilterSql.Text

/-- A text with the property `P`, with blanks around it. -/
def Padded (P : List Char → Prop) (cs : List Char) : Prop :=
  ∃ before core after, cs = before ++ core ++ after ∧
    (∀ c ∈ before, isBlank c = true) ∧ (∀ c ∈ after, isBlank c = true) ∧ P core

/-- A text that has characters, none of which is blank. -/
def Solid (cs : List Char) : Prop :=
  cs ≠ [] ∧ ∀ c ∈ cs, isBlank c = false

theorem isBlank_of_isDigit {c : Char} (h : c.isDigit = true) : isBlank c = false := by
  unfold Char.isDigit at h
  rw [Bool.and_eq_true, decide_eq_true_iff, decide_eq_true_iff] at h
  have hLow : 48 ≤ c.toNat := h.1
  have hHigh : c.toNat ≤ 57 := h.2
  simp only [isBlank, Bool.or_eq_false_iff, Bool.and_eq_false_iff, decide_eq_false_iff_not,
    beq_eq_false_iff_ne]
  omega

theorem Solid.append {cs ds : List Char} (hcs : Solid cs) (hds : ∀ c ∈ ds, isBlank c = false) :
    Solid (cs ++ ds) :=
  ⟨by simp [hcs.1], List.forall_mem_append.mpr ⟨hcs.2, hds⟩⟩

/-- What is trimmed off a text is blank. -/
theorem padded_trim {P : List Char → Prop} {cs : List Char} (h : P (trim cs)) : Padded P cs := by
  refine ⟨cs.takeWhile isBlank, trim cs, ((dropBlank cs).reverse.takeWhile isBlank).reverse, ?_,
    fun c hc => List.all_eq_true.mp List.all_takeWhile c hc,
    fun c hc => List.all_eq_true.mp List.all_takeWhile c (List.mem_reverse.mp hc), h⟩
  have hRight : trim cs ++ ((dropBlank cs).reverse.takeWhile isBlank).reverse = dropBlank cs := by
    unfold trim
    rw [← List.reverse_append]
    exact (congrArg List.reverse List.takeWhile_append_dropWhile).trans (List.reverse_reverse _)
  rw [List.append_assoc, hRight]
  exact List.takeWhile_append_dropWhile.symm

/-- Blanks are dropped as far as the first character that is not one. -/
theorem dropBlank_eq {before cs after : List Char} (hBefore : ∀ c ∈ before, isBlank c = true)
    (hcs : Solid cs) : dropBlank (before ++ (cs ++ after)) = cs ++ after := by
  obtain ⟨c, cs, rfl⟩ := List.exists_cons_of_ne_nil hcs.1
  have hFirst : isBlank c = false := hcs.2 c List.mem_cons_self
  unfold dropBlank
  rw [List.dropWhile_append_of_pos hBefore, List.cons_append,
    List.dropWhile_cons_of_neg (by simp [hFirst])]

theorem trim_eq {before cs after : List Char} (hBefore : ∀ c ∈ before, isBlank c = true)
    (hAfter : ∀ c ∈ after, isBlank c = true) (hcs : Solid cs) :
    trim (before ++ cs ++ after) = cs := by
  have hReverse : Solid cs.reverse :=
    ⟨by simpa using hcs.1, fun c hc => hcs.2 c (List.mem_reverse.mp hc)⟩
  unfold trim
  rw [List.append_assoc, dropBlank_eq hBefore hcs, List.reverse_append,
    ← List.append_nil cs.reverse,
    dropBlank_eq (fun c hc => hAfter c (List.mem_reverse.mp hc)) hReverse, List.append_nil,
    List.reverse_reverse]

/-- **A text without blanks is what trimming leaves of it.** -/
theorem padded_iff {P : List Char → Prop} (hP : ∀ cs, P cs → Solid cs) {cs : List Char} :
    Padded P cs ↔ P (trim cs) := by
  constructor
  · rintro ⟨before, core, after, rfl, hBefore, hAfter, hCore⟩
    rwa [trim_eq hBefore hAfter (hP core hCore)]
  · exact padded_trim

end FilterSql.Text
