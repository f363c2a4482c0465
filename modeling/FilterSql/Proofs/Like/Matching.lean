import FilterSql.Like.Match
import FilterSql.Like.Pattern
import FilterSql.Text.Lowercase

/-!
# Patterns match what filters mean

What the pattern of a filter matches, defined by the rules of filters alone, and the proof that the
pattern of the statement matches just that. The pattern of a filter is read as a list of elements.
Its translation writes these elements in the statement's own syntax, with escapes where a character
is special there, and the matcher reads them again.

* `Matches`: a text matches the pattern of a filter.
* `Element`, `elements`: the elements of a filter's pattern.
* `accepts`: a matcher of elements; `accepts_elements` says that it decides `Matches`.
* `matches_ofFilter`: the translated pattern matches the texts that the filter's pattern matches.
* `matches_folded`: so it does if pattern and text are folded to lower case.
-/

namespace FilterSql.Like

/-! ## The meaning of a filter's pattern -/

/-- A text matches a pattern. The escape character is looked at first, then the wild card, then the
character for a single one. Characters that stand for themselves are compared as `fold` makes
them. -/
inductive Matches (o : LikeOptions) (fold : Char → Char) : List Char → List Char → Prop
  | nil : Matches o fold [] []
  /-- The escape character makes the next one stand for itself. -/
  | escaped {c t : Char} {ps ts : List Char} (h : fold t = fold c) (hs : Matches o fold ps ts) :
      Matches o fold (o.escapeChar :: c :: ps) (t :: ts)
  /-- At the end, the escape character stands for itself. -/
  | trailing {t : Char} (h : fold t = fold o.escapeChar) : Matches o fold [o.escapeChar] [t]
  /-- The wild card stands for any text. -/
  | wild {ps ts : List Char} (text : List Char) (hEscape : o.wildCard ≠ o.escapeChar)
      (hs : Matches o fold ps ts) : Matches o fold (o.wildCard :: ps) (text ++ ts)
  /-- The character for a single one stands for any character. -/
  | single {ps ts : List Char} (t : Char) (hEscape : o.singleChar ≠ o.escapeChar)
      (hWild : o.singleChar ≠ o.wildCard) (hs : Matches o fold ps ts) :
      Matches o fold (o.singleChar :: ps) (t :: ts)
  /-- Any other character stands for itself. -/
  | literal {c t : Char} {ps ts : List Char} (hEscape : c ≠ o.escapeChar) (hWild : c ≠ o.wildCard)
      (hSingle : c ≠ o.singleChar) (h : fold t = fold c) (hs : Matches o fold ps ts) :
      Matches o fold (c :: ps) (t :: ts)

/-! ## Elements -/

/-- An element of a pattern. -/
inductive Element where
  | any
  | one
  | char (c : Char)
deriving DecidableEq, Repr

/-- The element of a character that is not the escape character. -/
def element (o : LikeOptions) (c : Char) : Element :=
  if c = o.wildCard then .any else if c = o.singleChar then .one else .char c

/-- The elements of a filter's pattern. -/
def elements (o : LikeOptions) : List Char → List Element
  | [] => []
  | [c] => if c = o.escapeChar then [.char c] else [element o c]
  | c :: d :: cs =>
    if c = o.escapeChar then .char d :: elements o cs else element o c :: elements o (d :: cs)

/-- Whether elements match a text. -/
def accepts (fold : Char → Char) : List Element → List Char → Bool
  | [], ts => ts.isEmpty
  | .any :: es, ts => (ends ts).any (accepts fold es)
  | .one :: _, [] => false
  | .one :: es, _ :: ts => accepts fold es ts
  | .char _ :: _, [] => false
  | .char c :: es, t :: ts => fold t == fold c && accepts fold es ts

variable {o : LikeOptions} {fold : Char → Char}

theorem elements_cons {c : Char} (h : c ≠ o.escapeChar) (cs : List Char) :
    elements o (c :: cs) = element o c :: elements o cs := by
  cases cs with
  | nil => exact if_neg h
  | cons d cs => rw [elements, if_neg h]

theorem accepts_char {c t : Char} {es : List Element} {ts : List Char} :
    accepts fold (.char c :: es) (t :: ts) = true ↔
      fold t = fold c ∧ accepts fold es ts = true := by
  rw [accepts, Bool.and_eq_true, beq_iff_eq]

theorem accepts_any {es : List Element} {ts : List Char} :
    accepts fold (.any :: es) ts = true ↔
      ∃ text rest, ts = text ++ rest ∧ accepts fold es rest = true := by
  rw [accepts, List.any_eq_true]
  constructor
  · rintro ⟨rest, hRest, h⟩
    obtain ⟨text, rfl⟩ := mem_ends.mp hRest
    exact ⟨text, rest, rfl, h⟩
  · rintro ⟨text, rest, rfl, h⟩
    exact ⟨rest, mem_ends.mpr (List.suffix_append text rest), h⟩

theorem accepts_of_matches {ps ts : List Char} (h : Matches o fold ps ts) :
    accepts fold (elements o ps) ts = true := by
  induction h with
  | nil => rfl
  | escaped h _ ih =>
    rw [elements, if_pos rfl]
    exact accepts_char.mpr ⟨h, ih⟩
  | trailing h =>
    rw [elements, if_pos rfl]
    exact accepts_char.mpr ⟨h, rfl⟩
  | wild text hEscape _ ih =>
    rw [elements_cons hEscape, element, if_pos rfl]
    exact accepts_any.mpr ⟨text, _, rfl, ih⟩
  | single t hEscape hWild _ ih =>
    rw [elements_cons hEscape, element, if_neg hWild, if_pos rfl]
    exact ih
  | literal hEscape hWild hSingle h _ ih =>
    rw [elements_cons hEscape, element, if_neg hWild, if_neg hSingle]
    exact accepts_char.mpr ⟨h, ih⟩

/-- A character that is not the escape character, in front of a pattern. -/
theorem matches_element {c : Char} {ps ts : List Char} (hEscape : c ≠ o.escapeChar)
    (ih : ∀ ts, accepts fold (elements o ps) ts = true → Matches o fold ps ts)
    (h : accepts fold (element o c :: elements o ps) ts = true) : Matches o fold (c :: ps) ts := by
  unfold element at h
  split at h
  · rename_i hWild
    obtain ⟨text, rest, rfl, hRest⟩ := accepts_any.mp h
    subst hWild
    exact .wild text hEscape (ih rest hRest)
  · rename_i hWild
    split at h
    · rename_i hSingle
      subst hSingle
      cases ts with
      | nil => exact absurd h Bool.false_ne_true
      | cons t ts => exact .single t hEscape hWild (ih ts h)
    · rename_i hSingle
      cases ts with
      | nil => exact absurd h Bool.false_ne_true
      | cons t ts =>
        obtain ⟨hChar, h⟩ := accepts_char.mp h
        exact .literal hEscape hWild hSingle hChar (ih ts h)

theorem matches_of_accepts : ∀ {ps ts : List Char}, accepts fold (elements o ps) ts = true →
    Matches o fold ps ts
  | [], ts, h => by
    rw [List.isEmpty_iff.mp h]
    exact .nil
  | [c], ts, h => by
    by_cases hEscape : c = o.escapeChar
    · rw [elements, if_pos hEscape] at h
      subst hEscape
      cases ts with
      | nil => exact absurd h Bool.false_ne_true
      | cons t ts =>
        obtain ⟨hChar, h⟩ := accepts_char.mp h
        rw [List.isEmpty_iff.mp h]
        exact .trailing hChar
    · rw [elements_cons hEscape] at h
      exact matches_element hEscape (fun ts h => matches_of_accepts h) h
  | c :: d :: cs, ts, h => by
    by_cases hEscape : c = o.escapeChar
    · rw [elements, if_pos hEscape] at h
      subst hEscape
      cases ts with
      | nil => exact absurd h Bool.false_ne_true
      | cons t ts =>
        obtain ⟨hChar, h⟩ := accepts_char.mp h
        exact .escaped hChar (matches_of_accepts h)
    · rw [elements_cons hEscape] at h
      exact matches_element hEscape (fun ts h => matches_of_accepts h) h

/-- The matcher of elements decides what a filter's pattern matches. -/
theorem accepts_elements {ps ts : List Char} :
    accepts fold (elements o ps) ts = true ↔ Matches o fold ps ts :=
  ⟨matches_of_accepts, accepts_of_matches⟩

instance (ps ts : List Char) : Decidable (Matches o fold ps ts) :=
  decidable_of_iff _ accepts_elements

/-! ## Translation -/

/-- Elements in the syntax of statements. -/
def ofElements : List Element → Pattern
  | [] => ⟨[], false⟩
  | .any :: es => (ofElements es).cons '%'
  | .one :: es => (ofElements es).cons '_'
  | .char c :: es => (ofElements es).consLiteral c

/-- The translation writes the elements of a pattern. -/
theorem ofFilter_eq (o : LikeOptions) : ∀ ps : List Char,
    Pattern.ofFilter o ps = ofElements (elements o ps)
  | [] => rfl
  | [c] => by
    unfold Pattern.ofFilter elements element
    split
    · rfl
    · split
      · rfl
      · split <;> rfl
  | c :: d :: cs => by
    unfold Pattern.ofFilter elements element
    rw [ofFilter_eq o cs, ofFilter_eq o (d :: cs)]
    split
    · rfl
    · split
      · rfl
      · split <;> rfl

/-! ## What a pattern leaves of texts -/

/-- What elements leave of texts, each of which is an end of the one before it. -/
def leave : List Element → List (List Char) → List (List Char)
  | [], texts => texts
  | .any :: es, texts => leave es (afterAny texts)
  | .one :: es, texts => leave es (afterOne (fun _ => true) texts)
  | .char c :: es, texts => leave es (afterOne (· == c) texts)

theorem rests_literal {c : Char} (h : isSpecial c = false) (escaped : Bool) (ps : List Char)
    (texts : List (List Char)) :
    rests escaped (c :: ps) texts = rests escaped ps (afterOne (· == c) texts) := by
  have hPercent : c ≠ '%' := by rintro rfl; exact absurd h (by decide)
  have hLine : c ≠ '_' := by rintro rfl; exact absurd h (by decide)
  have hEscape : (c == sqlEscape) = false := by
    rw [beq_eq_false_iff_ne]
    rintro rfl
    exact absurd h (by decide)
  have hLiteral : (escaped && c == sqlEscape) = false := by rw [hEscape, Bool.and_false]
  cases ps with
  | nil =>
    show rests escaped [c] texts = afterOne (· == c) texts
    rw [rests, hLiteral, if_neg Bool.false_ne_true] <;> assumption
  | cons p ps => rw [rests, hLiteral, if_neg Bool.false_ne_true] <;> assumption

/-- A character that stands for itself, in the syntax of statements. The pattern declares the escape
character if there is an escape. -/
theorem rests_consLiteral (c : Char) (p : Pattern) {escaped : Bool}
    (h : (p.consLiteral c).escaped = true → escaped = true) (texts : List (List Char)) :
    rests escaped (p.consLiteral c).chars texts =
      rests escaped p.chars (afterOne (· == c) texts) := by
  unfold Pattern.consLiteral at h ⊢
  cases hSpecial : isSpecial c with
  | true =>
    rw [hSpecial] at h
    obtain rfl : escaped = true := h rfl
    rfl
  | false => exact rests_literal hSpecial escaped p.chars texts

theorem escaped_of_consLiteral {c : Char} {p : Pattern} {escaped : Bool}
    (h : (p.consLiteral c).escaped = true → escaped = true) :
    p.escaped = true → escaped = true := by
  intro hp
  apply h
  unfold Pattern.consLiteral
  split
  · rfl
  · exact hp

/-- The matcher reads the elements that the translation has written. -/
theorem rests_ofElements : ∀ (es : List Element) {escaped : Bool},
    ((ofElements es).escaped = true → escaped = true) → ∀ texts,
      rests escaped (ofElements es).chars texts = leave es texts
  | [], _, _, _ => rfl
  | .any :: es, _, h, texts => rests_ofElements es h (afterAny texts)
  | .one :: es, _, h, texts => rests_ofElements es h (afterOne (fun _ => true) texts)
  | .char c :: es, _, h, texts => by
    rw [ofElements, rests_consLiteral c _ h, rests_ofElements es (escaped_of_consLiteral h), leave]

/-! ## Ends of a text -/

/-- Texts each of which is an end of all before it. -/
def Descending (texts : List (List Char)) : Prop :=
  texts.Pairwise fun a b => b <:+ a

theorem descending_ends : ∀ text : List Char, Descending (ends text)
  | [] => List.pairwise_singleton _ _
  | _ :: cs => List.pairwise_cons.mpr
    ⟨fun _ h => (mem_ends.mp h).trans (List.suffix_cons _ cs), descending_ends cs⟩

theorem Descending.afterAny {texts : List (List Char)} : Descending (afterAny texts) := by
  cases texts with
  | nil => exact .nil
  | cons text texts => exact descending_ends text

theorem Descending.afterOne {texts : List (List Char)} (h : Descending texts)
    (test : Char → Bool) : Descending (afterOne test texts) := by
  refine h.filterMap _ fun a b hab r hr s hs => ?_
  cases a with
  | nil => exact absurd hr (by simp)
  | cons c cs =>
    cases b with
    | nil => exact absurd hs (by simp)
    | cons d ds =>
      simp only [Option.ite_none_right_eq_some, Option.some.injEq] at hr hs
      obtain ⟨-, rfl⟩ := hr
      obtain ⟨-, rfl⟩ := hs
      rcases List.suffix_cons_iff.mp hab with hEq | hab
      · exact (List.cons.inj hEq).2 ▸ List.suffix_rfl
      · exact (List.suffix_cons d ds).trans hab

/-- All ends of the texts are ends of the first one. -/
theorem any_afterAny {texts : List (List Char)} (h : Descending texts) (f : List Char → Bool) :
    (afterAny texts).any f = texts.any fun t => (ends t).any f := by
  rw [Bool.eq_iff_iff]
  simp only [List.any_eq_true]
  constructor
  · rintro ⟨rest, hRest, hf⟩
    cases texts with
    | nil => exact absurd hRest List.not_mem_nil
    | cons text texts => exact ⟨text, List.mem_cons_self, rest, hRest, hf⟩
  · rintro ⟨t, ht, rest, hRest, hf⟩
    cases texts with
    | nil => exact absurd ht List.not_mem_nil
    | cons text texts =>
      refine ⟨rest, mem_ends.mpr ?_, hf⟩
      rcases List.mem_cons.mp ht with rfl | ht
      · exact mem_ends.mp hRest
      · exact (mem_ends.mp hRest).trans ((List.pairwise_cons.mp h).1 t ht)

theorem any_afterOne (test : Char → Bool) (f : List Char → Bool) (texts : List (List Char)) :
    (afterOne test texts).any f = texts.any fun
      | [] => false
      | c :: cs => test c && f cs := by
  rw [Bool.eq_iff_iff]
  simp only [List.any_eq_true, mem_afterOne]
  constructor
  · rintro ⟨rest, ⟨c, hc, hMem⟩, hf⟩
    exact ⟨c :: rest, hMem, Bool.and_eq_true_iff.mpr ⟨hc, hf⟩⟩
  · rintro ⟨t, hMem, h⟩
    cases t with
    | nil => exact absurd h Bool.false_ne_true
    | cons c cs =>
      obtain ⟨hc, hf⟩ := Bool.and_eq_true_iff.mp h
      exact ⟨cs, ⟨c, hc, hMem⟩, hf⟩

/-- What is left of texts holds the empty text iff one of them is matched. -/
theorem any_leave : ∀ (es : List Element) {texts : List (List Char)}, Descending texts →
    (leave es texts).any List.isEmpty = texts.any (accepts id es)
  | [], texts, _ => rfl
  | .any :: es, texts, h => by
    rw [leave, any_leave es .afterAny, any_afterAny h]
    rfl
  | .one :: es, texts, h => by
    rw [leave, any_leave es (h.afterOne _), any_afterOne]
    congr 1
    funext t
    cases t with
    | nil => rfl
    | cons c cs => exact Bool.true_and _
  | .char c :: es, texts, h => by
    rw [leave, any_leave es (h.afterOne _), any_afterOne]
    congr 1
    funext t
    cases t with
    | nil => rfl
    | cons d ds => rfl

/-- A pattern in the syntax of statements matches what its elements match. -/
theorem matches_ofElements (es : List Element) (text : List Char) :
    (ofElements es).matches text = accepts id es text := by
  unfold Pattern.matches
  have hOne : Descending [text] := List.pairwise_singleton _ _
  rw [rests_ofElements es id, any_leave es hOne, List.any_cons, List.any_nil, Bool.or_false]

/-- **The translated pattern matches the texts that the filter's pattern matches.** -/
theorem matches_ofFilter (o : LikeOptions) (ps text : List Char) :
    (Pattern.ofFilter o ps).matches text = decide (Matches o id ps text) := by
  rw [ofFilter_eq, matches_ofElements, Bool.eq_iff_iff, decide_eq_true_iff]
  exact accepts_elements

/-! ## Folding -/

/-- An element with its character folded. -/
def Element.map (fold : Char → Char) : Element → Element
  | any => any
  | one => one
  | char c => char (fold c)

/-- A folding that keeps the special characters of statements and makes no others. -/
structure KeepsSpecial (fold : Char → Char) : Prop where
  keeps : ∀ c, isSpecial c = true → fold c = c
  special : ∀ c, isSpecial (fold c) = isSpecial c

theorem KeepsSpecial.consLiteral (h : KeepsSpecial fold) (c : Char) (p : Pattern) :
    ({ p with chars := p.chars.map fold } : Pattern).consLiteral (fold c) =
      { p.consLiteral c with chars := (p.consLiteral c).chars.map fold } := by
  unfold Pattern.consLiteral
  rw [h.special]
  split
  · rename_i hSpecial
    rw [List.map_cons, List.map_cons, h.keeps c hSpecial, h.keeps sqlEscape (by decide)]
  · rfl

/-- Folding the text of a pattern folds the characters of its elements, and nothing else. -/
theorem ofElements_map (h : KeepsSpecial fold) : ∀ es : List Element,
    ofElements (es.map (Element.map fold)) =
      { ofElements es with chars := (ofElements es).chars.map fold }
  | [] => rfl
  | .any :: es => by
    rw [List.map_cons, Element.map, ofElements, ofElements_map h es, ofElements, Pattern.cons,
      Pattern.cons, List.map_cons, h.keeps '%' (by decide)]
  | .one :: es => by
    rw [List.map_cons, Element.map, ofElements, ofElements_map h es, ofElements, Pattern.cons,
      Pattern.cons, List.map_cons, h.keeps '_' (by decide)]
  | .char c :: es => by
    rw [List.map_cons, Element.map, ofElements, ofElements_map h es, ofElements, h.consLiteral]

theorem ends_map (fold : Char → Char) : ∀ ts : List Char,
    ends (ts.map fold) = (ends ts).map (List.map fold)
  | [] => rfl
  | t :: ts => by rw [List.map_cons, ends, ends_map fold ts, ends, List.map_cons, List.map_cons]

/-- Folded elements match a folded text iff the elements match the text up to the folding. -/
theorem accepts_map (fold : Char → Char) : ∀ (es : List Element) (ts : List Char),
    accepts id (es.map (Element.map fold)) (ts.map fold) = accepts fold es ts
  | [], [] => rfl
  | [], _ :: _ => rfl
  | .any :: es, ts => by
    have ih := funext (accepts_map fold es)
    rw [List.map_cons, Element.map, accepts, ends_map, List.any_map, accepts, ← ih]
    rfl
  | .one :: _, [] => rfl
  | .one :: es, _ :: ts => accepts_map fold es ts
  | .char _ :: _, [] => rfl
  | .char c :: es, t :: ts => by
    rw [List.map_cons, List.map_cons, Element.map, accepts, accepts_map fold es ts, accepts]
    rfl

/-- **A pattern and a text that are folded match iff they do up to the folding.** -/
theorem matches_folded (h : KeepsSpecial fold) (o : LikeOptions) (ps text : List Char) :
    ({ Pattern.ofFilter o ps with chars := (Pattern.ofFilter o ps).chars.map fold } :
      Pattern).matches (text.map fold) = decide (Matches o fold ps text) := by
  rw [ofFilter_eq, ← ofElements_map h, matches_ofElements, accepts_map, Bool.eq_iff_iff,
    decide_eq_true_iff]
  exact accepts_elements

/-- Folding makes a lower-case letter of an upper-case one, and leaves other characters. -/
theorem toLower_cases (c : Char) :
    c.toLower = c ∨ c.isAlpha = true ∧ c.toLower.isAlpha = true := by
  by_cases hUpper : 65 ≤ c.toNat ∧ c.toNat ≤ 90
  · have hLetters : ∀ n < 91, 65 ≤ n →
        (Char.ofNat n).isAlpha = true ∧ (Char.ofNat n).toLower.isAlpha = true := by decide
    have hLetter := hLetters c.toNat (by omega) hUpper.1
    rw [Char.ofNat_toNat] at hLetter
    exact .inr hLetter
  · exact .inl (dif_neg hUpper)

theorem isSpecial_of_isAlpha {c : Char} (h : c.isAlpha = true) : isSpecial c = false := by
  rw [Bool.eq_false_iff]
  intro hSpecial
  unfold isSpecial at hSpecial
  simp only [Bool.or_eq_true, beq_iff_eq] at hSpecial
  rcases hSpecial with (rfl | rfl) | rfl <;> exact absurd h (by decide)

/-- ASCII letters are not special, and neither are their foldings. -/
theorem keepsSpecial_toLower : KeepsSpecial Char.toLower where
  keeps c h := by
    rcases toLower_cases c with hSame | ⟨hLetter, -⟩
    · exact hSame
    · exact absurd h (by rw [isSpecial_of_isAlpha hLetter]; exact Bool.false_ne_true)
  special c := by
    rcases toLower_cases c with hSame | ⟨hLetter, hFolded⟩
    · rw [hSame]
    · rw [isSpecial_of_isAlpha hLetter, isSpecial_of_isAlpha hFolded]

end FilterSql.Like
