import FilterSql.Proofs.Like.Matching
import FilterSql.Proofs.Text.Folding

/-!
# Patterns of prefixes

The pattern of a filter for all texts that start in a given way: that start, in which the special
characters of the filter are escaped, and the wild card. In a statement it becomes the same start,
in which the statement's special characters are escaped, and a percent sign.

Such a pattern can be folded as a whole. An escape stands between characters that are in no word,
and so does the percent sign, so that every character of the start is folded as it is without them.

* `prefixPattern`: the pattern of a filter.
* `startOf`: the pattern of a statement.
* `ofFilter_prefixPattern`, `matches_startOf`: its translation, and what that matches.
* `lower_startOf`: it is folded where its start is.
* `matches_lower`: what it matches when it is folded.
-/

namespace FilterSql.Like

open FilterSql.Text (casedFirst casedFirst_cons endsInSigma isCased isIgnorable lowerAt
  lowerBeyondAscii lowerChar lowerFrom lowerFrom_cons lowerFrom_prefix_iff)

/-! ## The pattern of a filter -/

/-- A character that is to stand for itself in the pattern of a filter. -/
def quoted (o : LikeOptions) (c : Char) : List Char :=
  if c = o.wildCard ∨ c = o.singleChar ∨ c = o.escapeChar then [o.escapeChar, c] else [c]

/-- The pattern of all texts that start with the given one. -/
def prefixPattern (o : LikeOptions) (start : List Char) : List Char :=
  start.flatMap (quoted o) ++ [o.wildCard]

/-- The elements of all texts that start with the given one. -/
def startElements (start : List Char) : List Element :=
  start.map .char ++ [.any]

variable {o : LikeOptions}

theorem elements_quoted (c : Char) (ps : List Char) :
    elements o (quoted o c ++ ps) = .char c :: elements o ps := by
  unfold quoted
  split
  · exact if_pos rfl
  · rename_i hPlain
    have hWild : c ≠ o.wildCard := fun h => hPlain (.inl h)
    have hSingle : c ≠ o.singleChar := fun h => hPlain (.inr (.inl h))
    have hEscape : c ≠ o.escapeChar := fun h => hPlain (.inr (.inr h))
    rw [List.singleton_append, elements_cons hEscape, element, if_neg hWild, if_neg hSingle]

theorem elements_prefixPattern (h : o.wildCard ≠ o.escapeChar) : ∀ start : List Char,
    elements o (prefixPattern o start) = startElements start
  | [] => by
    show elements o [o.wildCard] = [.any]
    rw [elements_cons h, element, if_pos rfl]
    rfl
  | c :: start => by
    have ih := elements_prefixPattern h start
    unfold prefixPattern at ih ⊢
    rw [List.flatMap_cons, List.append_assoc, elements_quoted, ih]
    rfl

/-! ## The pattern of a statement -/

/-- The pattern of a statement for all texts that start with the given one. -/
def startOf (start : List Char) : Pattern :=
  ofElements (startElements start)

/-- The translation of the filter's pattern. -/
theorem ofFilter_prefixPattern (h : o.wildCard ≠ o.escapeChar) (start : List Char) :
    Pattern.ofFilter o (prefixPattern o start) = startOf start := by
  rw [ofFilter_eq, elements_prefixPattern h]
  rfl

theorem accepts_startElements : ∀ start text : List Char,
    accepts id (startElements start) text = start.isPrefixOf text
  | [], text => by
    rw [Bool.eq_iff_iff]
    refine iff_of_true ?_ rfl
    exact accepts_any.mpr ⟨text, [], (List.append_nil _).symm, rfl⟩
  | _ :: _, [] => rfl
  | c :: start, t :: text => by
    have ih := accepts_startElements start text
    show (t == c && accepts id (startElements start) text) = (c == t && start.isPrefixOf text)
    rw [ih, Bool.beq_comm]

/-- The pattern matches the texts that start in that way. -/
theorem matches_startOf (start text : List Char) :
    (startOf start).matches text = start.isPrefixOf text :=
  (matches_ofElements _ text).trans (accepts_startElements start text)

/-- A character that stands for itself in the pattern of a statement. -/
def literal (c : Char) : List Char :=
  if isSpecial c then [sqlEscape, c] else [c]

theorem chars_consLiteral (c : Char) (p : Pattern) :
    (p.consLiteral c).chars = literal c ++ p.chars := by
  unfold Pattern.consLiteral literal
  split <;> rfl

theorem escaped_consLiteral (c : Char) (p : Pattern) :
    (p.consLiteral c).escaped = (isSpecial c || p.escaped) := by
  unfold Pattern.consLiteral
  cases isSpecial c <;> rfl

theorem chars_startOf : ∀ start : List Char,
    (startOf start).chars = start.flatMap literal ++ ['%']
  | [] => rfl
  | c :: start => by
    have ih := chars_startOf start
    unfold startOf startElements at ih ⊢
    rw [List.map_cons, List.cons_append, ofElements, chars_consLiteral, ih, List.flatMap_cons,
      List.append_assoc]

theorem escaped_startOf : ∀ start : List Char, (startOf start).escaped = start.any isSpecial
  | [] => rfl
  | c :: start => by
    have ih := escaped_startOf start
    unfold startOf startElements at ih ⊢
    rw [List.map_cons, List.cons_append, ofElements, escaped_consLiteral, ih, List.any_cons]

/-- A pattern that declares no escape character does not hold it. -/
theorem escaped_or_not_mem_startOf (start : List Char) :
    (startOf start).escaped = true ∨ sqlEscape ∉ (startOf start).chars := by
  rw [escaped_startOf, chars_startOf, or_iff_not_imp_left]
  intro hPlain hMem
  rcases List.mem_append.mp hMem with hMem | hMem
  · obtain ⟨c, hc, hMem⟩ := List.mem_flatMap.mp hMem
    have hNot : isSpecial c = false := by
      rw [Bool.eq_false_iff]
      exact fun h => hPlain (List.any_eq_true.mpr ⟨c, hc, h⟩)
    rw [literal, hNot] at hMem
    obtain rfl := List.mem_singleton.mp hMem
    exact absurd hNot (by decide)
  · exact absurd (List.mem_singleton.mp hMem) (by decide)

/-! ## Special characters -/

/-- A special character is in no word, and there is no other case of it. -/
theorem special_apart {c : Char} (h : isSpecial c = true) :
    isIgnorable c = false ∧ isCased c = false ∧ c ≠ 'Σ' ∧ lowerChar c = [c] := by
  unfold isSpecial at h
  simp only [Bool.or_eq_true, beq_iff_eq] at h
  rcases h with (rfl | rfl) | rfl <;> decide +kernel

theorem not_isSpecial_of_le {c : Char} (h : 97 ≤ c.toNat) : isSpecial c = false := by
  rw [Bool.eq_false_iff]
  intro hSpecial
  unfold isSpecial at hSpecial
  simp only [Bool.or_eq_true, beq_iff_eq] at hSpecial
  rcases hSpecial with (rfl | rfl) | rfl <;> exact absurd h (by decide)

/-- All lower-case letters come after the special characters. -/
theorem least_lower : ∀ r ∈ Text.lowerRuns, 97 ≤ (r.first : Int) + r.shift := by decide +kernel

theorem not_isSpecial_lowerBeyondAscii {c : Char} (h : 128 ≤ c.toNat) :
    isSpecial (lowerBeyondAscii c) = false := by
  unfold lowerBeyondAscii
  split
  · rename_i r hFind
    have hHolds := List.find?_some hFind
    have hLeast := least_lower r (List.mem_of_find?_eq_some hFind)
    simp only [Text.CaseRun.holds, Bool.and_eq_true, decide_eq_true_eq] at hHolds
    by_cases hValid : ((c.toNat : Int) + r.shift).toNat.isValidChar
    · refine not_isSpecial_of_le ?_
      rw [Char.ofNat, dif_pos hValid]
      show 97 ≤ ((c.toNat : Int) + r.shift).toNat
      omega
    · rw [Char.ofNat, dif_neg hValid]
      decide
  · exact not_isSpecial_of_le (by omega)

theorem not_isSpecial_of_mem_lowerChar {c d : Char} (h : isSpecial c = false)
    (hd : d ∈ lowerChar c) : isSpecial d = false := by
  unfold lowerChar at hd
  split at hd
  · obtain rfl := List.mem_singleton.mp hd
    rw [keepsSpecial_toLower.special, h]
  · rename_i hBeyond
    split at hd
    · rcases List.mem_cons.mp hd with rfl | hd
      · rfl
      · obtain rfl := List.mem_singleton.mp hd
        decide
    · obtain rfl := List.mem_singleton.mp hd
      exact not_isSpecial_lowerBeyondAscii (by omega)

/-! ## Folding -/

variable {before before' cs cs' : List Char}

/-- A character is folded by what is before it and after it only where words go on. -/
theorem lowerAt_congr (hBefore : casedFirst before = casedFirst before')
    (hAfter : casedFirst cs = casedFirst cs') (c : Char) :
    lowerAt before c cs = lowerAt before' c cs' := by
  unfold lowerAt
  rw [hBefore, hAfter]

theorem lowerAt_special {c : Char} (h : isSpecial c = true) : lowerAt before c cs = [c] := by
  obtain ⟨-, -, hSigma, hLower⟩ := special_apart h
  unfold lowerAt
  rw [if_neg (mt beq_iff_eq.mp hSigma), hLower]

theorem not_isSpecial_of_mem_lowerAt {c d : Char} (h : isSpecial c = false)
    (hd : d ∈ lowerAt before c cs) : isSpecial d = false := by
  unfold lowerAt at hd
  split at hd
  · obtain rfl := List.mem_singleton.mp hd
    split <;> decide
  · exact not_isSpecial_of_mem_lowerChar h hd

theorem flatMap_literal (h : ∀ c ∈ cs, isSpecial c = false) : cs.flatMap literal = cs := by
  induction cs with
  | nil => rfl
  | cons c cs ih =>
    obtain ⟨hc, hcs⟩ := List.forall_mem_cons.mp h
    rw [List.flatMap_cons, ih hcs, literal, hc]
    rfl

/-- Escapes in front of characters do not show whether a word goes on in them. -/
theorem casedFirst_chars : ∀ cs : List Char,
    casedFirst (cs.flatMap literal ++ ['%']) = casedFirst cs
  | [] => by decide +kernel
  | c :: cs => by
    rw [List.flatMap_cons, List.append_assoc, literal]
    cases hSpecial : isSpecial c with
    | false =>
      show casedFirst (c :: (cs.flatMap literal ++ ['%'])) = _
      rw [casedFirst_cons, casedFirst_cons, casedFirst_chars cs]
    | true =>
      obtain ⟨hIgnorable, hCased, -⟩ := special_apart hSpecial
      obtain ⟨hEscape, hEscape', -⟩ := special_apart (show isSpecial sqlEscape = true from rfl)
      show casedFirst (sqlEscape :: c :: _) = _
      rw [casedFirst_cons, hEscape, casedFirst_cons c cs, hIgnorable, hCased, hEscape']
      rfl

/-- Escapes are left as they are when characters are folded, and change no other character. -/
theorem lowerFrom_chars : ∀ (cs before before' : List Char),
    casedFirst before = casedFirst before' →
      lowerFrom before (cs.flatMap literal ++ ['%']) =
        (lowerFrom before' cs).flatMap literal ++ ['%']
  | [], before, before', _ => by
    show lowerAt before '%' [] ++ [] = _
    rw [lowerAt_special rfl]
    rfl
  | c :: cs, before, before', hBefore => by
    have hAfter : casedFirst (cs.flatMap literal ++ ['%']) = casedFirst cs := casedFirst_chars cs
    rw [List.flatMap_cons, List.append_assoc, lowerFrom_cons, List.flatMap_append,
      List.append_assoc, literal]
    cases hSpecial : isSpecial c with
    | false =>
      have hNext : casedFirst (c :: before) = casedFirst (c :: before') := by
        rw [casedFirst_cons, casedFirst_cons, hBefore]
      show lowerFrom before (c :: (cs.flatMap literal ++ ['%'])) = _
      rw [lowerFrom_cons, lowerFrom_chars cs _ _ hNext, lowerAt_congr hBefore hAfter,
        flatMap_literal fun d hd => not_isSpecial_of_mem_lowerAt hSpecial hd]
    | true =>
      obtain ⟨hIgnorable, -⟩ := special_apart hSpecial
      have hNext : casedFirst (c :: sqlEscape :: before) = casedFirst (c :: before') := by
        rw [casedFirst_cons, casedFirst_cons c before', hIgnorable,
          if_neg Bool.false_ne_true, if_neg Bool.false_ne_true]
      show lowerFrom before (sqlEscape :: c :: (cs.flatMap literal ++ ['%'])) = _
      rw [lowerFrom_cons, lowerFrom_cons, lowerAt_special rfl, lowerAt_special hSpecial,
        lowerFrom_chars cs _ _ hNext, lowerAt_special hSpecial, List.flatMap_singleton, literal,
        hSpecial]
      rfl

/-- Folding makes no special characters and keeps those that there are. -/
theorem any_isSpecial_lowerFrom : ∀ cs before : List Char,
    (lowerFrom before cs).any isSpecial = cs.any isSpecial
  | [], _ => rfl
  | c :: cs, before => by
    rw [lowerFrom_cons, List.any_append, any_isSpecial_lowerFrom cs, List.any_cons]
    cases hSpecial : isSpecial c with
    | true =>
      rw [lowerAt_special hSpecial, List.any_cons, hSpecial]
      rfl
    | false =>
      have hNone : (lowerAt before c cs).any isSpecial = false :=
        List.any_eq_false.mpr fun d hd => by
          rw [not_isSpecial_of_mem_lowerAt hSpecial hd]
          exact Bool.false_ne_true
      rw [hNone]

/-- The pattern of a folded start is the folded pattern. -/
theorem lower_startOf (start : List Char) :
    ({ startOf start with chars := lowerFrom [] (startOf start).chars } : Pattern) =
      startOf (lowerFrom [] start) := by
  have hChars : lowerFrom [] (startOf start).chars = (startOf (lowerFrom [] start)).chars := by
    rw [chars_startOf, chars_startOf, lowerFrom_chars start [] [] rfl]
  have hEscaped : (startOf start).escaped = (startOf (lowerFrom [] start)).escaped := by
    rw [escaped_startOf, escaped_startOf, any_isSpecial_lowerFrom]
  exact congr (congrArg Pattern.mk hChars) hEscaped

/-- **A folded pattern of a start matches the folded texts that start in that way**, unless the
start ends in a sigma that would end a word and the word goes on. -/
theorem matches_lower (start rest : List Char) :
    (startOf (lowerFrom [] start)).matches (lowerFrom [] (start ++ rest)) =
      !(endsInSigma start && casedFirst rest) := by
  rw [matches_startOf, Bool.eq_iff_iff, List.isPrefixOf_iff_prefix, lowerFrom_prefix_iff,
    Bool.not_eq_true', Bool.eq_false_iff, Ne, Bool.and_eq_true_iff]

end FilterSql.Like
