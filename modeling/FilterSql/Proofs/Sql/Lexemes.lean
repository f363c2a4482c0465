import FilterSql.Sql.Placeholder

/-!
# Quoted regions

What a lexer of SQL takes a text for. A single or a double quote opens a region, which ends at the
first such quote that is not doubled. A doubled quote stands for one character within the region,
and a region that no quote ends goes on to the end of the text.

Such a lexer looks ahead at the character behind a quote. The counter of placeholders does not: it
takes a doubled quote for the end of one region and the beginning of another. It counts the same
placeholders all the same, as there is nothing between these two regions.

* `readRegion`, `lexemes`: the lexer.
* `Lexed`: which lexemes a text is written with.
* `lexed_iff`: the lexer reads every text as the lexemes that it is written with.
* `countFrom_lexed`, `countFrom_append`: what the counter makes of lexemes.
* `placeholders_outside_quotes`: placeholders are the question marks outside of regions.
-/

namespace FilterSql.Sql

/-- A character that opens a region. -/
abbrev IsQuote (c : Char) : Prop :=
  c = '\'' ∨ c = '"'

/-- A part of a text. -/
inductive Lexeme where
  /-- A character outside of quotes. -/
  | char (c : Char)
  /-- What stands in quotes. It is `closed` by a quote, or goes on to the end of the text. -/
  | region (quote : Char) (content : List Char) (closed : Bool)
deriving DecidableEq

/-- No region goes on to the end of the text. -/
def Lexeme.isClosed : Lexeme → Bool
  | char _ => true
  | region _ _ closed => closed

/-! ## The lexer -/

/-- The content of a region behind its first quote, and what follows its last one, if there is
one. -/
def readRegion (q : Char) : List Char → List Char × Option (List Char)
  | [] => ([], none)
  | [c] => if c = q then ([], some []) else ([c], none)
  | c :: d :: cs =>
    if c = q ∧ d = q then (q :: (readRegion q cs).1, (readRegion q cs).2)
    else if c = q then ([], some (d :: cs))
    else (c :: (readRegion q (d :: cs)).1, (readRegion q (d :: cs)).2)

section Region

variable {q c : Char} {cs : List Char}

theorem readRegion_of_ne (h : c ≠ q) :
    readRegion q (c :: cs) = (c :: (readRegion q cs).1, (readRegion q cs).2) := by
  cases cs with
  | nil => simp [readRegion, h]
  | cons d cs => rw [readRegion, if_neg fun hBoth => h hBoth.1, if_neg h]

theorem readRegion_twice :
    readRegion q (q :: q :: cs) = (q :: (readRegion q cs).1, (readRegion q cs).2) := by
  rw [readRegion, if_pos ⟨rfl, rfl⟩]

theorem readRegion_once (h : cs.head? ≠ some q) : readRegion q (q :: cs) = ([], some cs) := by
  cases cs with
  | nil => simp [readRegion]
  | cons d cs =>
    have hd : d ≠ q := fun hEq => h (congrArg some hEq)
    rw [readRegion, if_neg fun hBoth => hd hBoth.2, if_pos rfl]

end Region

/-- The content of a region as it is written: quotes are doubled. -/
def doubled (q : Char) (content : List Char) : List Char :=
  content.flatMap fun c => if c = q then [q, q] else [c]

theorem doubled_cons (q c : Char) (content : List Char) :
    doubled q (c :: content) = (if c = q then [q, q] else [c]) ++ doubled q content :=
  List.flatMap_cons

/-- A region is read up to the quote that is not doubled, if there is one. -/
theorem readRegion_cases (q : Char) : ∀ cs : List Char,
    (∃ content rest, readRegion q cs = (content, some rest) ∧ rest.head? ≠ some q ∧
      cs = doubled q content ++ q :: rest) ∨
    ∃ content, readRegion q cs = (content, none) ∧ cs = doubled q content
  | [] => .inr ⟨[], rfl, rfl⟩
  | [c] => by
    by_cases h : c = q
    · subst h
      exact .inl ⟨[], [], readRegion_once (by simp), by simp, rfl⟩
    · exact .inr ⟨[c], by rw [readRegion_of_ne h]; rfl, by simp [doubled, h]⟩
  | c :: d :: cs => by
    by_cases h : c = q
    · subst h
      by_cases hd : d = c
      · subst hd
        rcases readRegion_cases d cs with ⟨content, rest, hRead, hHead, rfl⟩ | ⟨content, hRead, rfl⟩
        · refine .inl ⟨d :: content, rest, ?_, hHead, ?_⟩
          · rw [readRegion_twice, hRead]
          · simp [doubled_cons]
        · refine .inr ⟨d :: content, ?_, ?_⟩
          · rw [readRegion_twice, hRead]
          · simp [doubled_cons]
      · have hHead : (d :: cs).head? ≠ some c := fun hEq => hd (Option.some.inj hEq)
        exact .inl ⟨[], d :: cs, readRegion_once hHead, hHead, rfl⟩
    · rcases readRegion_cases q (d :: cs) with
        ⟨content, rest, hRead, hHead, hText⟩ | ⟨content, hRead, hText⟩
      · refine .inl ⟨c :: content, rest, ?_, hHead, ?_⟩
        · rw [readRegion_of_ne h, hRead]
        · simp [doubled_cons, h, hText]
      · refine .inr ⟨c :: content, ?_, ?_⟩
        · rw [readRegion_of_ne h, hRead]
        · simp [doubled_cons, h, hText]

/-- What follows a region is shorter than the text. -/
theorem length_lt_of_readRegion {q : Char} {cs content rest : List Char}
    (h : readRegion q cs = (content, some rest)) : rest.length < cs.length := by
  rcases readRegion_cases q cs with ⟨content', rest', hRead, -, rfl⟩ | ⟨content', hRead, -⟩
  · obtain ⟨-, hRest⟩ := Prod.mk.inj (h.symm.trans hRead)
    rw [Option.some.inj hRest]
    simp only [List.length_append, List.length_cons]
    omega
  · exact absurd (Prod.mk.inj (h.symm.trans hRead)).2 (by simp)

/-- The lexemes of a text. -/
def lexemes : List Char → List Lexeme
  | [] => []
  | c :: cs =>
    if IsQuote c then
      match _h : readRegion c cs with
      | (content, some rest) => .region c content true :: lexemes rest
      | (content, none) => [.region c content false]
    else .char c :: lexemes cs
termination_by cs => cs.length
decreasing_by
  · exact Nat.lt_succ_of_lt (length_lt_of_readRegion _h)
  · exact Nat.lt_succ_self _

section Lexer

variable {q c : Char} {cs content rest : List Char}

theorem lexemes_nil : lexemes [] = [] := by
  rw [lexemes]

theorem lexemes_char (h : ¬IsQuote c) : lexemes (c :: cs) = .char c :: lexemes cs := by
  rw [lexemes, if_neg h]

theorem lexemes_closed (hq : IsQuote q) (h : readRegion q cs = (content, some rest)) :
    lexemes (q :: cs) = .region q content true :: lexemes rest := by
  rw [lexemes, if_pos hq]
  split
  · rename_i h'
    obtain ⟨rfl, hRest⟩ := Prod.mk.inj (h.symm.trans h')
    rw [Option.some.inj hRest]
  · rename_i h'
    exact absurd (Prod.mk.inj (h.symm.trans h')).2 (by simp)

theorem lexemes_unclosed (hq : IsQuote q) (h : readRegion q cs = (content, none)) :
    lexemes (q :: cs) = [.region q content false] := by
  rw [lexemes, if_pos hq]
  split
  · rename_i h'
    exact absurd (Prod.mk.inj (h.symm.trans h')).2 (by simp)
  · rename_i h'
    rw [(Prod.mk.inj (h.symm.trans h')).1]

end Lexer

/-! ## The grammar -/

/-- A text is written with lexemes. A quote that closes a region is not followed by another one,
which would double it. -/
inductive Lexed : List Char → List Lexeme → Prop
  | nil : Lexed [] []
  | char {c : Char} {cs : List Char} {ls : List Lexeme} : ¬IsQuote c → Lexed cs ls →
      Lexed (c :: cs) (.char c :: ls)
  | closed {q : Char} {content rest : List Char} {ls : List Lexeme} : IsQuote q →
      rest.head? ≠ some q → Lexed rest ls →
      Lexed (q :: (doubled q content ++ q :: rest)) (.region q content true :: ls)
  | unclosed {q : Char} {content : List Char} : IsQuote q →
      Lexed (q :: doubled q content) [.region q content false]

theorem readRegion_closed {q : Char} {rest : List Char} (h : rest.head? ≠ some q) :
    ∀ content, readRegion q (doubled q content ++ q :: rest) = (content, some rest)
  | [] => readRegion_once h
  | c :: content => by
    have ih := readRegion_closed h content
    by_cases hc : c = q
    · subst hc
      simp [doubled_cons, readRegion_twice, ih]
    · simp [doubled_cons, hc, readRegion_of_ne hc, ih]

theorem readRegion_unclosed {q : Char} :
    ∀ content, readRegion q (doubled q content) = (content, none)
  | [] => rfl
  | c :: content => by
    have ih := readRegion_unclosed (q := q) content
    by_cases hc : c = q
    · subst hc
      simp [doubled_cons, readRegion_twice, ih]
    · simp [doubled_cons, hc, readRegion_of_ne hc, ih]

/-- A text is written with the lexemes that the lexer reads. -/
theorem lexed_lexemes : ∀ cs : List Char, Lexed cs (lexemes cs)
  | [] => by
    rw [lexemes_nil]
    exact .nil
  | c :: cs => by
    by_cases hq : IsQuote c
    · rcases readRegion_cases c cs with
        ⟨content, rest, hRead, hHead, hText⟩ | ⟨content, hRead, hText⟩
      · have := length_lt_of_readRegion hRead
        rw [lexemes_closed hq hRead, hText]
        exact .closed hq hHead (lexed_lexemes rest)
      · rw [lexemes_unclosed hq hRead, hText]
        exact .unclosed hq
    · rw [lexemes_char hq]
      exact .char hq (lexed_lexemes cs)
termination_by cs => cs.length

/-- **The lexer reads every text as the lexemes that it is written with.** -/
theorem lexed_iff {cs : List Char} {ls : List Lexeme} : Lexed cs ls ↔ lexemes cs = ls := by
  constructor
  · intro h
    induction h with
    | nil => exact lexemes_nil
    | char hc _ ih => rw [lexemes_char hc, ih]
    | closed hq hHead _ ih => rw [lexemes_closed hq (readRegion_closed hHead _), ih]
    | unclosed hq => exact lexemes_unclosed hq (readRegion_unclosed _)
  · rintro rfl
    exact lexed_lexemes cs

/-! ## The counter -/

/-- Within a region nothing is counted, and a doubled quote leaves the region open. -/
theorem countFrom_doubled {q : Char} (hq : IsQuote q) (content rest : List Char) :
    countFrom (some q) (doubled q content ++ rest) = countFrom (some q) rest := by
  induction content with
  | nil => rfl
  | cons c content ih =>
    by_cases hc : c = q
    · subst hc
      simp [doubled_cons, countFrom, hq, ih]
    · simp [doubled_cons, countFrom, hc, ih]

theorem countFrom_closed {q : Char} (hq : IsQuote q) (content rest : List Char) :
    countFrom none (q :: (doubled q content ++ q :: rest)) = countFrom none rest := by
  rw [countFrom, if_pos hq, countFrom_doubled hq]
  simp [countFrom]

theorem countFrom_unclosed {q : Char} (hq : IsQuote q) (content : List Char) :
    countFrom none (q :: doubled q content) = 0 := by
  have h := countFrom_doubled hq content []
  rw [List.append_nil] at h
  rw [countFrom, if_pos hq, h]
  rfl

/-- **The counter counts the question marks outside of regions.** -/
theorem countFrom_lexed {cs : List Char} {ls : List Lexeme} (h : Lexed cs ls) :
    countFrom none cs = ls.count (.char '?') := by
  induction h with
  | nil => rfl
  | @char c cs ls hc _ ih =>
    rw [countFrom, if_neg hc, List.count_cons, ih]
    by_cases hMark : c = '?'
    · simp [hMark]
    · simp [hMark]
  | closed hq _ _ ih => rw [countFrom_closed hq, ih, List.count_cons_of_ne (by simp)]
  | unclosed hq => rw [countFrom_unclosed hq, List.count_cons_of_ne (by simp), List.count_nil]

/-- A text whose regions are closed does not change what is counted behind it, also where a quote
follows that makes its last region go on. -/
theorem countFrom_append {cs : List Char} {ls : List Lexeme} (h : Lexed cs ls)
    (hClosed : ∀ l ∈ ls, l.isClosed = true) (rest : List Char) :
    countFrom none (cs ++ rest) = countFrom none cs + countFrom none rest := by
  induction h with
  | nil => simp [countFrom]
  | @char c cs ls hc _ ih =>
    have ih := ih fun l hl => hClosed l (List.mem_cons_of_mem _ hl)
    rw [List.cons_append, countFrom, if_neg hc, countFrom, if_neg hc, ih]
    split
    · omega
    · rfl
  | @closed q content rest' ls hq _ _ ih =>
    have ih := ih fun l hl => hClosed l (List.mem_cons_of_mem _ hl)
    rw [List.cons_append, List.append_assoc, List.cons_append, countFrom_closed hq,
      countFrom_closed hq, ih]
  | unclosed hq => exact absurd (hClosed _ List.mem_cons_self) (by simp [Lexeme.isClosed])

/-- **Placeholders are the question marks outside of quoted regions.** Behind a text whose regions
are closed, the placeholders of another one are counted as they are on their own. -/
theorem placeholders_outside_quotes :
    (∀ cs ls, Lexed cs ls ↔ lexemes cs = ls) ∧
    (∀ sql : String, countPlaceholders sql = (lexemes sql.toList).count (.char '?')) ∧
    (∀ a : String, (∀ l ∈ lexemes a.toList, l.isClosed = true) →
      ∀ b : String, countPlaceholders (a ++ b) = countPlaceholders a + countPlaceholders b) := by
  refine ⟨fun _ _ => lexed_iff, fun sql => countFrom_lexed (lexed_lexemes _), fun a hClosed b => ?_⟩
  unfold countPlaceholders
  rw [String.toList_append]
  exact countFrom_append (lexed_lexemes _) hClosed _

/-- Two texts whose quotes meet: the second one opens a region that it does not close. -/
theorem placeholders_outside_quotes_adjacent :
    (∀ l ∈ lexemes "? = 'it''s ?'".toList, l.isClosed = true) ∧
      countPlaceholders ("? = 'it''s ?'" ++ "'?") =
        countPlaceholders "? = 'it''s ?'" + countPlaceholders "'?" := by
  have hAll : (lexemes "? = 'it''s ?'".toList).all Lexeme.isClosed = true := by decide +kernel
  have hClosed := List.all_eq_true.mp hAll
  exact ⟨hClosed, placeholders_outside_quotes.2.2 _ hClosed _⟩

end FilterSql.Sql
