import FilterSql.Like.Pattern

/-!
# Matching

The meaning of a statement's pattern: which texts it matches. Cases are told apart. A pattern is
matched from its first character on, against all the ends of the text that are still in question at
once, so that the work is at most the product of the two lengths.

* `rests`: what a pattern leaves of texts.
* `Pattern.matches`: a text matches.
-/

namespace FilterSql.Like

/-- The ends of a text, the whole text first. -/
def ends : List Char → List (List Char)
  | [] => [[]]
  | c :: cs => (c :: cs) :: ends cs

@[simp] theorem mem_ends {rest text : List Char} : rest ∈ ends text ↔ rest <:+ text := by
  induction text with
  | nil => simp [ends]
  | cons c cs ih => simp [ends, ih, List.suffix_cons_iff]

/-- What is left of texts after a character that passes. -/
def afterOne (test : Char → Bool) (texts : List (List Char)) : List (List Char) :=
  texts.filterMap fun
    | [] => none
    | c :: cs => if test c then some cs else none

@[simp] theorem mem_afterOne {test : Char → Bool} {texts : List (List Char)} {rest : List Char} :
    rest ∈ afterOne test texts ↔ ∃ c, test c = true ∧ c :: rest ∈ texts := by
  simp only [afterOne, List.mem_filterMap]
  constructor
  · rintro ⟨_ | ⟨c, cs⟩, hmem, h⟩
    · cases h
    · by_cases hc : test c = true
      · obtain rfl : cs = rest := by simpa [hc] using h
        exact ⟨c, hc, hmem⟩
      · simp [hc] at h
  · rintro ⟨c, hc, hmem⟩
    exact ⟨c :: rest, hmem, by simp [hc]⟩

/-- What is left of texts after any characters. Each text is an end of the one before it, so that
the ends of the first one are all there are. -/
def afterAny : List (List Char) → List (List Char)
  | [] => []
  | text :: _ => ends text

/-- What the pattern leaves of texts, each of which is an end of the one before it. With `escaped`,
a backslash makes the next character of the pattern stand for itself; a pattern that ends in one
matches nothing. -/
def rests (escaped : Bool) : List Char → List (List Char) → List (List Char)
  | [], texts => texts
  | '%' :: ps, texts => rests escaped ps (afterAny texts)
  | '_' :: ps, texts => rests escaped ps (afterOne (fun _ => true) texts)
  | [p], texts => if escaped && p == sqlEscape then [] else afterOne (· == p) texts
  | p :: q :: ps, texts =>
    if escaped && p == sqlEscape then rests escaped ps (afterOne (· == q) texts)
    else rests escaped (q :: ps) (afterOne (· == p) texts)

/-- Whether the pattern matches a text: it can leave nothing of it. -/
def Pattern.matches (p : Pattern) (text : List Char) : Bool :=
  (rests p.escaped p.chars [text]).any List.isEmpty

end FilterSql.Like
