import FilterSql.Text.Lowercase
import Mathlib.Data.List.TakeWhile

/-!
# Folding parts of texts

The full folding to lower case goes character by character, but for one of them: a capital sigma at
the end of a word gets a form of its own. So the folding of a text can change where another text
follows it, and it does just where the text ends in such a sigma and the other one goes on with the
word.

* `lowerBetween`: a part of a text, folded between the others.
* `lowerFrom_append`: a text is folded part by part.
* `endsInSigma`: a text ends in a capital sigma that ends a word.
* `lowerFrom_prefix_iff`: when the folding of a text starts with the folding of its start.
-/

namespace FilterSql.Text

variable {before cs ds : List Char} {c : Char}

/-! ## Words -/

theorem casedFirst_cons (c : Char) (cs : List Char) :
    casedFirst (c :: cs) = if isIgnorable c then casedFirst cs else isCased c := by
  unfold casedFirst
  rw [List.dropWhile_cons]
  cases isIgnorable c <;> rfl

/-- Whether a word goes on in two texts is up to the second one if the first one is ignorable. -/
theorem casedFirst_append (ds : List Char) : ∀ cs : List Char,
    casedFirst (cs ++ ds) = if cs.all isIgnorable then casedFirst ds else casedFirst cs
  | [] => rfl
  | c :: cs => by
    rw [List.cons_append, casedFirst_cons, casedFirst_append ds cs, casedFirst_cons, List.all_cons]
    cases isIgnorable c with
    | true => rw [if_pos rfl, if_pos rfl, Bool.true_and]
    | false => rfl

theorem casedFirst_of_ignorable : ∀ {cs : List Char}, cs.all isIgnorable = true →
    casedFirst cs = false
  | [], _ => rfl
  | c :: cs, h => by
    obtain ⟨hc, hcs⟩ := Bool.and_eq_true_iff.mp h
    rw [casedFirst_cons, if_pos hc, casedFirst_of_ignorable hcs]

/-! ## Parts -/

/-- A character folded between others, those before it given from the nearest one back. -/
def lowerAt (before : List Char) (c : Char) (after : List Char) : List Char :=
  if c == 'Σ' then [if casedFirst before && !casedFirst after then 'ς' else 'σ'] else lowerChar c

/-- Characters folded between others. -/
def lowerBetween (before : List Char) : List Char → List Char → List Char
  | [], _ => []
  | c :: cs, after => lowerAt before c (cs ++ after) ++ lowerBetween (c :: before) cs after

theorem lowerFrom_cons (before : List Char) (c : Char) (cs : List Char) :
    lowerFrom before (c :: cs) = lowerAt before c cs ++ lowerFrom (c :: before) cs :=
  rfl

/-- A text is folded part by part. -/
theorem lowerFrom_append (after : List Char) : ∀ cs before : List Char,
    lowerFrom before (cs ++ after) =
      lowerBetween before cs after ++ lowerFrom (cs.reverse ++ before) after
  | [], _ => rfl
  | c :: cs, before => by
    rw [List.cons_append, lowerFrom_cons, lowerFrom_append after cs, lowerBetween,
      List.append_assoc, List.reverse_cons, List.append_assoc]
    rfl

theorem lowerBetween_nil (before cs : List Char) :
    lowerBetween before cs [] = lowerFrom before cs := by
  have h := lowerFrom_append [] cs before
  rw [List.append_nil] at h
  rw [h]
  exact (List.append_nil _).symm

theorem length_lowerAt (before : List Char) (c : Char) (after after' : List Char) :
    (lowerAt before c after).length = (lowerAt before c after').length := by
  unfold lowerAt
  split <;> rfl

/-- The length of a folded text does not depend on what follows. -/
theorem length_lowerBetween (after after' : List Char) : ∀ cs before : List Char,
    (lowerBetween before cs after).length = (lowerBetween before cs after').length
  | [], _ => rfl
  | c :: cs, before => by
    rw [lowerBetween, lowerBetween, List.length_append, List.length_append,
      length_lowerBetween after after' cs, length_lowerAt before c _ (cs ++ after')]

/-! ## Final sigmas -/

/-- The characters have a capital sigma that ends a word, if none goes on after them. -/
def HasFinalSigma (before cs : List Char) : Prop :=
  ∃ first last, cs = first ++ 'Σ' :: last ∧ casedFirst (first.reverse ++ before) = true ∧
    last.all isIgnorable = true

theorem not_hasFinalSigma_nil : ¬HasFinalSigma before [] := by
  rintro ⟨first, last, h, -⟩
  exact absurd h (by simp)

theorem hasFinalSigma_cons : HasFinalSigma before (c :: cs) ↔
    (c = 'Σ' ∧ casedFirst before = true ∧ cs.all isIgnorable = true) ∨
      HasFinalSigma (c :: before) cs := by
  constructor
  · rintro ⟨first, last, h, hBefore, hLast⟩
    cases first with
    | nil =>
      obtain ⟨rfl, rfl⟩ := List.cons.inj h
      exact .inl ⟨rfl, hBefore, hLast⟩
    | cons d first =>
      obtain ⟨rfl, rfl⟩ := List.cons.inj h
      rw [List.reverse_cons, List.append_assoc] at hBefore
      exact .inr ⟨first, last, rfl, hBefore, hLast⟩
  · rintro (⟨rfl, hBefore, hLast⟩ | ⟨first, last, rfl, hBefore, hLast⟩)
    · exact ⟨[], cs, rfl, hBefore, hLast⟩
    · refine ⟨c :: first, last, rfl, ?_, hLast⟩
      rw [List.reverse_cons, List.append_assoc]
      exact hBefore

/-- What follows changes how a character is folded just if the character is a sigma after which a
word can end or go on. -/
theorem lowerAt_eq_iff (after : List Char) :
    lowerAt before c cs = lowerAt before c (cs ++ after) ↔
      ¬((c = 'Σ' ∧ casedFirst before = true ∧ cs.all isIgnorable = true) ∧
        casedFirst after = true) := by
  unfold lowerAt
  by_cases hSigma : c = 'Σ'
  · rw [if_pos (beq_iff_eq.mpr hSigma), if_pos (beq_iff_eq.mpr hSigma), casedFirst_append]
    cases hBefore : casedFirst before with
    | false => exact iff_of_true rfl fun h => absurd h.1.2.1 Bool.false_ne_true
    | true =>
      cases hIgnorable : cs.all isIgnorable with
      | false => exact iff_of_true rfl fun h => absurd h.1.2.2 Bool.false_ne_true
      | true =>
        rw [casedFirst_of_ignorable hIgnorable, if_pos rfl]
        cases casedFirst after with
        | false => exact iff_of_true rfl fun h => absurd h.2 Bool.false_ne_true
        | true => exact iff_of_false (by decide) fun h => h ⟨⟨hSigma, rfl, rfl⟩, rfl⟩
  · rw [if_neg (mt beq_iff_eq.mp hSigma), if_neg (mt beq_iff_eq.mp hSigma)]
    exact iff_of_true rfl fun h => hSigma h.1.1

/-- Characters are folded in the same way before a text and at the end, unless they end in a sigma
whose word goes on in the text. -/
theorem lowerBetween_eq_iff (after : List Char) : ∀ cs before : List Char,
    lowerFrom before cs = lowerBetween before cs after ↔
      ¬(HasFinalSigma before cs ∧ casedFirst after = true)
  | [], _ => iff_of_true rfl fun h => not_hasFinalSigma_nil h.1
  | c :: cs, before => by
    rw [lowerFrom_cons, lowerBetween, hasFinalSigma_cons]
    have hLength := length_lowerAt before c cs (cs ++ after)
    constructor
    · intro hEq
      obtain ⟨hHead, hTail⟩ := List.append_inj hEq hLength
      rintro ⟨hFirst | hRest, hAfter⟩
      · exact (lowerAt_eq_iff after).mp hHead ⟨hFirst, hAfter⟩
      · exact (lowerBetween_eq_iff after cs (c :: before)).mp hTail ⟨hRest, hAfter⟩
    · intro hNot
      have hHead := (lowerAt_eq_iff after).mpr fun h => hNot ⟨.inl h.1, h.2⟩
      have hTail := (lowerBetween_eq_iff after cs (c :: before)).mpr fun h => hNot ⟨.inr h.1, h.2⟩
      rw [hHead, hTail]

/-- The text ends in a capital sigma that ends a word, but for ignorable characters. -/
def endsInSigma (cs : List Char) : Bool :=
  match cs.reverse.dropWhile isIgnorable with
  | [] => false
  | c :: before => c == 'Σ' && casedFirst before

theorem not_isIgnorable_sigma : isIgnorable 'Σ' = false := by decide +kernel

theorem endsInSigma_iff : endsInSigma cs = true ↔ HasFinalSigma [] cs := by
  unfold endsInSigma HasFinalSigma
  simp only [List.append_nil]
  constructor
  · intro h
    split at h
    · exact absurd h Bool.false_ne_true
    · rename_i c before hDrop
      obtain ⟨hSigma, hBefore⟩ := Bool.and_eq_true_iff.mp h
      obtain rfl := beq_iff_eq.mp hSigma
      have hSplit := List.takeWhile_append_dropWhile (p := isIgnorable) (l := cs.reverse)
      rw [hDrop] at hSplit
      refine ⟨before.reverse, (cs.reverse.takeWhile isIgnorable).reverse, ?_, ?_, ?_⟩
      · have hReverse := congrArg List.reverse hSplit
        rw [List.reverse_reverse, List.reverse_append, List.reverse_cons,
          List.append_assoc] at hReverse
        exact hReverse.symm
      · rwa [List.reverse_reverse]
      · rw [List.all_reverse]
        exact List.all_takeWhile
  · rintro ⟨first, last, rfl, hBefore, hLast⟩
    have hDrop : (first ++ 'Σ' :: last).reverse.dropWhile isIgnorable = 'Σ' :: first.reverse := by
      rw [List.reverse_append, List.reverse_cons, List.append_assoc,
        List.dropWhile_append_of_pos fun c hc =>
          List.all_eq_true.mp hLast c (List.mem_reverse.mp hc)]
      exact List.dropWhile_cons_of_neg (by rw [not_isIgnorable_sigma]; exact Bool.false_ne_true)
    rw [hDrop]
    exact hBefore

/-- **A folded text starts with the folding of its start**, unless the start ends in a sigma that
would end a word and the word goes on. -/
theorem lowerFrom_prefix_iff (cs after : List Char) :
    lowerFrom [] cs <+: lowerFrom [] (cs ++ after) ↔
      ¬(endsInSigma cs = true ∧ casedFirst after = true) := by
  rw [endsInSigma_iff, ← lowerBetween_eq_iff after cs [], lowerFrom_append]
  constructor
  · rintro ⟨rest, hRest⟩
    have hLength := length_lowerBetween [] after cs []
    rw [lowerBetween_nil] at hLength
    exact (List.append_inj hRest hLength).1
  · intro hEq
    rw [← hEq]
    exact List.prefix_append _ _

end FilterSql.Text
