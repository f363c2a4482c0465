import FilterSql.Json.Reader
import FilterSql.Json.Writer
import FilterSql.Proofs.Json.Numerals
import Mathlib.Data.List.Forall2

/-!
# Written values are read back

The text of a value, read as JSON, is the value again, up to its doubles: these are what the reader
makes of their digits. What is written of a part is read whatever follows it, so the parts of arrays
and objects are read one by one.

* `string_escape`: the escaped characters of a string.
* `ReadsAs`: what the text of a value is read as, `ReadsBack`: the value itself.
* `readsAs_str`, `readsAs_float`, `readsAs_arr`, `readsAs_obj` and their like: what it is, if those
  of the parts are read.
* `parse_text`: such a value is the value of its text.
-/

namespace FilterSql.Json

open FilterSql.Number (digits signChars twoPow)

/-! ## Texts -/

mutual

/-- The text of a value is put behind a text. -/
theorem toList_appendTo : ∀ (s : String) (j : Json),
    (appendTo s j).toList = s.toList ++ j.text.toList
  | s, .null | s, .unpaired | s, .bool _ | s, .int _ | s, .float _ | s, .str _ => by
    simp only [text, appendTo, String.toList_append, String.toList_empty, List.nil_append]
  | s, .arr items => by
    simp only [text, appendTo, String.toList_append, toList_appendItems (s.push '[') items,
      toList_appendItems ("".push '[') items, String.toList_push, List.append_assoc,
      String.toList_empty, List.nil_append]
  | s, .obj members => by
    simp only [text, appendTo, String.toList_append, toList_appendMembers (s.push '\x7b') members,
      toList_appendMembers ("".push '\x7b') members, String.toList_push, List.append_assoc,
      String.toList_empty, List.nil_append]

theorem toList_appendItems : ∀ (s : String) (items : List Json),
    (appendItems s items).toList = s.toList ++ (appendItems "" items).toList
  | s, [] => by simp only [appendItems, String.toList_empty, List.append_nil]
  | s, [j] => toList_appendTo s j
  | s, j :: k :: items => by
    simp only [appendItems, toList_appendItems ((appendTo s j).push ',') (k :: items),
      toList_appendItems ((appendTo "" j).push ',') (k :: items), String.toList_push,
      toList_appendTo s j, List.append_assoc, text]

theorem toList_appendMembers : ∀ (s : String) (members : List (String × Json)),
    (appendMembers s members).toList = s.toList ++ (appendMembers "" members).toList
  | s, [] => by simp only [appendMembers, String.toList_empty, List.append_nil]
  | s, [(name, j)] => by
    simp only [appendMembers, toList_appendTo (s ++ quote name ++ ":") j,
      toList_appendTo ("" ++ quote name ++ ":") j, String.toList_append, List.append_assoc,
      String.toList_empty, List.nil_append]
  | s, (name, j) :: m :: members => by
    simp only [appendMembers,
      toList_appendMembers ((appendTo (s ++ quote name ++ ":") j).push ',') (m :: members),
      toList_appendMembers ((appendTo ("" ++ quote name ++ ":") j).push ',') (m :: members),
      toList_appendTo (s ++ quote name ++ ":") j, toList_appendTo ("" ++ quote name ++ ":") j,
      String.toList_push, String.toList_append, List.append_assoc,
      String.toList_empty, List.nil_append]

end

namespace Reader

/-! ## Strings -/

variable {c : Char} {cs rest : List Char}

theorem string_plain (hEscape : c ≠ '\\') (hQuote : c ≠ '"') (hControl : ¬c.toNat < 0x20)
    (cs : List Char) :
    string none (c :: cs) = (string none cs).map fun (s, cs) => (c :: s, cs) := by
  rw [string.eq_def]
  split
  · rename_i h
    exact absurd (List.cons.inj h).1 hEscape
  · rename_i h
    exact absurd (List.cons.inj h).1 hEscape
  · rename_i h
    obtain ⟨rfl, rfl⟩ := List.cons.inj h
    rw [if_neg (by simp [hEscape, hControl]), if_neg (by simp [hQuote])]
  · rename_i h
    exact absurd h (by simp)

theorem string_short {d : Char} (hShort : shortEscape? c = some d) (cs : List Char) :
    string none ('\\' :: c :: cs) = (string none cs).map fun (s, cs) => (d :: s, cs) := by
  have hLong : c ≠ 'u' := by
    rintro rfl
    exact absurd hShort (by simp [shortEscape?])
  rw [string.eq_def]
  split
  · rename_i h
    obtain ⟨-, h⟩ := List.cons.inj h
    exact absurd (List.cons.inj h).1 hLong
  · rename_i h
    obtain ⟨-, h⟩ := List.cons.inj h
    obtain ⟨rfl, rfl⟩ := List.cons.inj h
    rw [hShort]
  · rename_i hNot h
    obtain ⟨rfl, rfl⟩ := List.cons.inj h
    exact absurd rfl (hNot _ _ rfl)
  · rename_i h
    exact absurd h (by simp)

theorem fixedWidth_control : ∀ n < 0x20, Text.Hex.fixedWidth 4 n =
    ['0', '0', (n / 16).digitChar, (n % 16).digitChar] := by decide

theorem hexValues_control : ∀ n < 0x20,
    hexValues? '0' '0' (n / 16).digitChar (n % 16).digitChar = some n := by decide

theorem string_control (hControl : c.toNat < 0x20) (cs : List Char) :
    string none ('\\' :: 'u' :: (Text.Hex.fixedWidth 4 c.toNat ++ cs)) =
      (string none cs).map fun (s, cs) => (c :: s, cs) := by
  have hHigh : isHigh c.toNat = false := by simp [isHigh]; omega
  have hLow : isLow c.toNat = false := by simp [isLow]; omega
  rw [fixedWidth_control _ hControl]
  show string none ('\\' :: 'u' :: '0' :: '0' :: _ :: _ :: cs) = _
  rw [string.eq_def]
  simp only [hexValues_control _ hControl, hHigh, hLow, Bool.false_eq_true, if_false,
    Char.ofNat_toNat]

/-- The text of a character within quotes is read as that character. -/
theorem string_escape (c : Char) (cs : List Char) :
    string none (escape c ++ cs) = (string none cs).map fun (s, cs) => (c :: s, cs) := by
  unfold escape
  split
  · exact string_short rfl cs
  · exact string_short rfl cs
  · exact string_short rfl cs
  · exact string_short rfl cs
  · exact string_short rfl cs
  · exact string_short rfl cs
  · exact string_short rfl cs
  · split
    · rename_i hControl
      exact string_control hControl cs
    · rename_i hQuote hEscape _ _ _ _ _ hControl
      exact string_plain hEscape hQuote hControl cs

/-- The text of a string is read back. -/
theorem string_quoted (rest : List Char) : ∀ cs : List Char,
    string none (cs.flatMap escape ++ '"' :: rest) = some (cs, rest)
  | [] => rfl
  | c :: cs => by
    rw [List.flatMap_cons, List.append_assoc, string_escape, string_quoted rest cs]
    rfl

theorem quoted_quote (s : String) (rest : List Char) :
    quoted (s.toList.flatMap escape ++ '"' :: rest) = some (some s, rest) := by
  unfold quoted
  rw [string_quoted]
  simp

end Reader

/-! ## Values -/

open Reader (items members quoted quoted_quote skip value word)

/-- What can follow a value in a text without blanks. -/
def Closes (rest : List Char) : Prop :=
  ∀ c ∈ rest.head?, c = ',' ∨ c = ']' ∨ c = '}'

theorem closes_nil : Closes [] := fun _ h => absurd h (by simp)

theorem closes_cons {c : Char} (h : c = ',' ∨ c = ']' ∨ c = '}') (rest : List Char) :
    Closes (c :: rest) := fun _ hd => Option.some.inj hd ▸ h

theorem Closes.endsNumber {rest : List Char} (h : Closes rest) : EndsNumber rest := by
  intro c hc
  obtain rfl | rfl | rfl := h c hc <;> decide

/-- The text of the value `j` is read as `k`, whatever follows it. -/
structure ReadsAs (double : Numeral → Float) (j k : Json) : Prop where
  /-- The text starts with a character that is neither a blank nor the end of an array. -/
  start : ∃ c cs, j.text.toList = c :: cs ∧ c ≠ ']' ∧ ∀ ds, skip (c :: ds) = c :: ds
  reads : ∀ fuel rest, j.text.toList.length ≤ fuel → Closes rest →
    value double fuel (j.text.toList ++ rest) = some (k, rest)

/-- The text of a value is read back. -/
def ReadsBack (j : Json) : Prop :=
  ReadsAs Reader.magnitude j j

section

variable {double : Numeral → Float}

theorem readsAs_null : ReadsAs double .null .null where
  start := ⟨'n', _, rfl, by decide, fun _ => rfl⟩
  reads
    | _ + 1, _, _, _ => rfl

theorem readsAs_bool (b : Bool) : ReadsAs double (.bool b) (.bool b) := by
  cases b with
  | true =>
    exact ⟨⟨'t', _, rfl, by decide, fun _ => rfl⟩, fun | _ + 1, _, _, _ => rfl⟩
  | false =>
    exact ⟨⟨'f', _, rfl, by decide, fun _ => rfl⟩, fun | _ + 1, _, _, _ => rfl⟩

theorem toList_text_str (s : String) :
    (text (.str s)).toList = '"' :: (s.toList.flatMap escape ++ ['"']) := by
  simp only [text, appendTo, quote, String.toList_append, String.toList_ofList, quoteChars]
  rfl

theorem readsAs_str (s : String) : ReadsAs double (.str s) (.str s) where
  start := ⟨'"', _, toList_text_str s, by decide, fun _ => rfl⟩
  reads := by
    rintro (_ | fuel) rest hFuel -
    · rw [toList_text_str] at hFuel
      exact absurd hFuel (by simp)
    · rw [toList_text_str, List.cons_append, List.append_assoc]
      show (quoted (s.toList.flatMap escape ++ '"' :: rest)).map _ = _
      rw [quoted_quote]
      rfl

/-! ## Numbers -/

theorem ne_of_isDigit {c d : Char} (hc : c.isDigit = true) (hd : d.isDigit = false) : c ≠ d := by
  rintro rfl
  exact absurd (hc.symm.trans hd) (by decide)

theorem skip_digit {c : Char} (h : c.isDigit = true) (cs : List Char) :
    skip (c :: cs) = c :: cs := by
  simp [skip, ne_of_isDigit (d := ' ') h rfl, ne_of_isDigit (d := '\n') h rfl,
    ne_of_isDigit (d := '\t') h rfl, ne_of_isDigit (d := '\r') h rfl]

/-- A digit begins no other value than a number. -/
theorem value_digit {c : Char} (h : c.isDigit = true) (cs : List Char) (fuel : Nat) :
    value double (fuel + 1) (c :: cs) = Reader.number double false (c :: cs) := by
  simp only [value, skip_digit h]
  split
  case h_8 => rfl
  all_goals
    rename_i hHead
    exact absurd (List.cons.inj hHead).1 (ne_of_isDigit h rfl)

/-- A number is read behind its sign, if what stands behind it begins with a digit. -/
theorem readsAs_number {j k : Json} {negative : Bool} {cs : List Char}
    (hText : j.text.toList = signChars negative ++ cs)
    (hDigit : ∃ c ds, cs = c :: ds ∧ c.isDigit = true)
    (hRead : ∀ rest, EndsNumber rest →
      Reader.number double negative (cs ++ rest) = some (k, rest)) :
    ReadsAs double j k := by
  obtain ⟨c, ds, rfl, hDigit⟩ := hDigit
  cases negative with
  | true =>
    refine ⟨⟨'-', c :: ds, hText, by decide, fun _ => rfl⟩, ?_⟩
    rintro (_ | fuel) rest hFuel hCloses
    · rw [hText] at hFuel
      exact absurd hFuel (by simp [signChars])
    · rw [hText]
      exact hRead rest hCloses.endsNumber
  | false =>
    refine ⟨⟨c, ds, hText, ne_of_isDigit hDigit rfl, skip_digit hDigit⟩, ?_⟩
    rintro (_ | fuel) rest hFuel hCloses
    · rw [hText] at hFuel
      exact absurd hFuel (by simp [signChars])
    · rw [hText]
      exact (value_digit hDigit _ fuel).trans (hRead rest hCloses.endsNumber)

/-- An integer of 64 bits is read back. -/
theorem readsAs_int {i : Int} (hLow : -(twoPow 63 : Int) ≤ i) (hHigh : i < twoPow 64) :
    ReadsAs double (.int i) (.int i) := by
  obtain ⟨c, cs, hDigits, hDigit⟩ := exists_digits i.natAbs
  have hText : (text (.int i)).toList = signChars (i < 0) ++ digits i.natAbs := by
    simp only [text, appendTo, String.toList_append, String.toList_empty, List.nil_append]
    exact toList_toString i
  exact readsAs_number hText ⟨c, cs, hDigits, hDigit⟩ fun _ hRest =>
    number_int double hLow hHigh hRest

/-- A double is read as what the reader makes of its digits, with its sign. -/
theorem readsAs_float {x : Float} {n : Numeral} (h : Numeral.ofFloat? x = some n) :
    ReadsAs double (.float x)
      (.float (if Number.Dyadic.signBit x then -double n else double n)) := by
  obtain ⟨hProper, hDouble⟩ := Numeral.ofFloat?_proper h
  have hText : (text (.float x)).toList = signChars (Number.Dyadic.signBit x) ++ n.text := by
    simp only [text, appendTo, numberText, h, String.toList_append, String.toList_ofList,
      String.toList_empty, List.nil_append]
  refine readsAs_number hText ?_ fun _ hRest => number_text double _ hProper hDouble hRest
  obtain ⟨c, whole, hWhole⟩ := List.exists_cons_of_ne_nil hProper.nonempty
  have hDigit := hProper.whole c (hWhole ▸ List.mem_cons_self)
  unfold Numeral.text
  rw [hWhole, List.append_assoc]
  exact ⟨c, _, rfl, hDigit⟩

/-! ## Arrays -/

/-- The text of several items. -/
theorem items_reads : ∀ {j j' : Json} {js js' : List Json},
    List.Forall₂ (ReadsAs double) (j :: js) (j' :: js') →
    ∀ fuel rest, (appendItems "" (j :: js)).toList.length < fuel →
      items double fuel ((appendItems "" (j :: js)).toList ++ ']' :: rest) =
        some (j' :: js', rest)
  | j, j', [], [], .cons hj .nil, fuel + 1, rest, hFuel => by
    have hText : (appendItems "" [j]).toList = j.text.toList := rfl
    rw [hText] at hFuel ⊢
    have hRead := hj.reads fuel (']' :: rest) (by omega) (closes_cons (by decide) rest)
    rw [items, hRead]
    rfl
  | j, j', k :: js, k' :: js', .cons hj hjs, fuel + 1, rest, hFuel => by
    have hText : (appendItems "" (j :: k :: js)).toList =
        j.text.toList ++ ',' :: (appendItems "" (k :: js)).toList := by
      show (appendItems ((appendTo "" j).push ',') (k :: js)).toList = _
      rw [toList_appendItems, String.toList_push, List.append_assoc]
      rfl
    rw [hText] at hFuel ⊢
    simp only [List.length_append, List.length_cons] at hFuel
    have hRead := hj.reads fuel (',' :: ((appendItems "" (k :: js)).toList ++ ']' :: rest))
      (by omega) (closes_cons (by decide) _)
    have hRest := items_reads hjs fuel rest (by omega)
    rw [List.append_assoc, List.cons_append, items, hRead]
    show (items double fuel ((appendItems "" (k :: js)).toList ++ ']' :: rest)).map _ = _
    rw [hRest]
    rfl

theorem toList_text_arr (js : List Json) :
    (text (.arr js)).toList = '[' :: ((appendItems "" js).toList ++ [']']) := by
  simp only [text, appendTo, String.toList_append, toList_appendItems ("".push '[') js,
    String.toList_push, List.append_assoc]
  rfl

theorem start_items {j k : Json} (h : ReadsAs double j k) (js : List Json) :
    ∃ c cs, (appendItems "" (j :: js)).toList = c :: cs ∧ c ≠ ']' ∧
      ∀ ds, skip (c :: ds) = c :: ds := by
  obtain ⟨c, cs, hText, hEnd, hSkip⟩ := h.start
  cases js with
  | nil => exact ⟨c, cs, hText, hEnd, hSkip⟩
  | cons k js =>
    show ∃ c cs, (appendItems ((appendTo "" j).push ',') (k :: js)).toList = c :: cs ∧ _
    rw [toList_appendItems, String.toList_push, List.append_assoc]
    exact ⟨c, _, congrArg (· ++ _) hText, hEnd, hSkip⟩

/-- An array that does not end at once. -/
theorem value_bracket {c : Char} {cs : List Char} (hEnd : c ≠ ']')
    (hSkip : skip (c :: cs) = c :: cs) (fuel : Nat) :
    value double (fuel + 1) ('[' :: c :: cs) =
      (items double fuel (c :: cs)).map fun (js, cs) => (.arr js, cs) := by
  have hBracket : skip ('[' :: c :: cs) = '[' :: c :: cs := rfl
  simp only [value, hBracket, hSkip]
  split
  · rename_i h
    exact absurd (List.cons.inj h).1 hEnd
  · rfl

theorem readsAs_arr {js ks : List Json} (h : List.Forall₂ (ReadsAs double) js ks) :
    ReadsAs double (.arr js) (.arr ks) where
  start := ⟨'[', _, toList_text_arr js, by decide, fun _ => rfl⟩
  reads := by
    rintro (_ | fuel) rest hFuel -
    · rw [toList_text_arr] at hFuel
      exact absurd hFuel (by simp)
    · rw [toList_text_arr] at hFuel ⊢
      simp only [List.length_cons, List.length_append, List.length_nil] at hFuel
      cases h with
      | nil => rfl
      | @cons j k js ks hj hjs =>
        have hItems := items_reads (.cons hj hjs) fuel rest (by omega)
        obtain ⟨c, cs, hText, hEnd, hSkip⟩ := start_items hj js
        rw [hText] at hItems ⊢
        rw [List.cons_append, List.append_assoc]
        show value double (fuel + 1) ('[' :: c :: (cs ++ ']' :: rest)) = _
        have hItems : items double fuel (c :: (cs ++ ']' :: rest)) = some (k :: ks, rest) := hItems
        rw [value_bracket hEnd (hSkip _), hItems]
        rfl

/-! ## Objects -/

/-- The text of a member: its name, a colon and its value. -/
theorem toList_member (s name : String) (j : Json) :
    (appendTo (s ++ quote name ++ ":") j).toList =
      s.toList ++ '"' :: (name.toList.flatMap escape ++ '"' :: ':' :: j.text.toList) := by
  rw [toList_appendTo, String.toList_append, String.toList_append, quote, String.toList_ofList,
    quoteChars]
  simp

/-- A member before another one. -/
theorem members_comma {j k : Json} (hj : ReadsAs double j k) (name : String) {fuel : Nat}
    (cs : List Char) (hFuel : j.text.toList.length ≤ fuel) :
    members double (fuel + 1)
        ('"' :: (name.toList.flatMap escape ++ '"' :: ':' :: (j.text.toList ++ ',' :: cs))) =
      (members double fuel cs).map fun (ms, cs) => (Reader.consMember (some name) k ms, cs) := by
  show (quoted _).bind _ = _
  rw [quoted_quote]
  show (value double fuel (j.text.toList ++ ',' :: cs)).bind _ = _
  rw [hj.reads fuel _ hFuel (closes_cons (by decide) cs)]
  rfl

/-- The last member. -/
theorem members_close {j k : Json} (hj : ReadsAs double j k) (name : String) {fuel : Nat}
    (cs : List Char) (hFuel : j.text.toList.length ≤ fuel) :
    members double (fuel + 1)
        ('"' :: (name.toList.flatMap escape ++ '"' :: ':' :: (j.text.toList ++ '}' :: cs))) =
      some (some [(name, k)], cs) := by
  show (quoted _).bind _ = _
  rw [quoted_quote]
  show (value double fuel (j.text.toList ++ '}' :: cs)).bind _ = _
  rw [hj.reads fuel _ hFuel (closes_cons (by decide) cs)]
  rfl

/-- A member is read under its name. -/
def MemberReadsAs (double : Numeral → Float) (m n : String × Json) : Prop :=
  m.1 = n.1 ∧ ReadsAs double m.2 n.2

/-- The text of several members. -/
theorem members_reads : ∀ {m n : String × Json} {ms ns : List (String × Json)},
    List.Forall₂ (MemberReadsAs double) (m :: ms) (n :: ns) →
    ∀ fuel rest, (appendMembers "" (m :: ms)).toList.length < fuel →
      members double fuel ((appendMembers "" (m :: ms)).toList ++ '}' :: rest) =
        some (some (n :: ns), rest)
  | (name, j), (_, k), [], [], .cons ⟨rfl, hj⟩ .nil, fuel + 1, rest, hFuel => by
    have hText : (appendMembers "" [(name, j)]).toList =
        '"' :: (name.toList.flatMap escape ++ '"' :: ':' :: j.text.toList) :=
      toList_member "" name j
    rw [hText] at hFuel ⊢
    simp only [List.length_append, List.length_cons] at hFuel
    rw [List.cons_append, List.append_assoc]
    simp only [List.cons_append]
    have hj : ReadsAs double j k := hj
    exact members_close hj name rest (by omega)
  | (name, j), (_, k), m :: ms, n :: ns, .cons ⟨rfl, hj⟩ hms, fuel + 1, rest, hFuel => by
    have hText : (appendMembers "" ((name, j) :: m :: ms)).toList =
        '"' :: (name.toList.flatMap escape ++
          '"' :: ':' :: (j.text.toList ++ ',' :: (appendMembers "" (m :: ms)).toList)) := by
      show (appendMembers ((appendTo ("" ++ quote name ++ ":") j).push ',') (m :: ms)).toList = _
      rw [toList_appendMembers, String.toList_push, toList_member]
      simp
    rw [hText] at hFuel ⊢
    simp only [List.length_append, List.length_cons] at hFuel
    have hj : ReadsAs double j k := hj
    have hRest := members_reads hms fuel rest (by omega)
    rw [List.cons_append, List.append_assoc]
    simp only [List.cons_append, List.append_assoc]
    rw [members_comma hj name _ (by omega), hRest]
    rfl

theorem toList_text_obj (ms : List (String × Json)) :
    (text (.obj ms)).toList = '{' :: ((appendMembers "" ms).toList ++ ['}']) := by
  simp only [text, appendTo, String.toList_append, toList_appendMembers ("".push _) ms,
    String.toList_push, List.append_assoc]
  rfl

theorem start_members (m : String × Json) (ms : List (String × Json)) :
    ∃ cs, (appendMembers "" (m :: ms)).toList = '"' :: cs := by
  obtain ⟨name, j⟩ := m
  cases ms with
  | nil => exact ⟨_, toList_member "" name j⟩
  | cons m ms =>
    show ∃ cs, (appendMembers ((appendTo ("" ++ quote name ++ ":") j).push ',') (m :: ms)).toList =
      '"' :: cs
    rw [toList_appendMembers, String.toList_push, toList_member]
    exact ⟨_, rfl⟩

theorem readsAs_obj {ms ns : List (String × Json)}
    (h : List.Forall₂ (MemberReadsAs double) ms ns) : ReadsAs double (.obj ms) (.obj ns) where
  start := ⟨'{', _, toList_text_obj ms, by decide, fun _ => rfl⟩
  reads := by
    rintro (_ | fuel) rest hFuel -
    · rw [toList_text_obj] at hFuel
      exact absurd hFuel (by simp)
    · rw [toList_text_obj] at hFuel ⊢
      simp only [List.length_cons, List.length_append, List.length_nil] at hFuel
      cases h with
      | nil => rfl
      | @cons m n ms ns hm hms =>
        have hMembers := members_reads (.cons hm hms) fuel rest (by omega)
        obtain ⟨cs, hText⟩ := start_members m ms
        rw [hText] at hMembers ⊢
        rw [List.cons_append, List.append_assoc]
        show (members double fuel ('"' :: (cs ++ '}' :: rest))).map _ = _
        have hMembers : members double fuel ('"' :: (cs ++ '}' :: rest)) =
            some (some (n :: ns), rest) := hMembers
        rw [hMembers]
        rfl

end

/-! ## Whole texts -/

/-- **A text is read as a whole as its value is.** -/
theorem parseBy_text {double : Numeral → Float} {j k : Json} (h : ReadsAs double j k) :
    parseBy? double j.text = some k := by
  have hRead := h.reads (2 * j.text.toList.length + 2) [] (by omega) closes_nil
  rw [List.append_nil] at hRead
  unfold parseBy?
  simp only [hRead]
  rfl

theorem readsBack_null : ReadsBack .null :=
  readsAs_null

theorem readsBack_str (s : String) : ReadsBack (.str s) :=
  readsAs_str s

theorem readsBack_arr {js : List Json} (h : ∀ j ∈ js, ReadsBack j) : ReadsBack (.arr js) :=
  readsAs_arr (List.forall₂_same.mpr h)

theorem readsBack_obj {ms : List (String × Json)} (h : ∀ m ∈ ms, ReadsBack m.2) :
    ReadsBack (.obj ms) :=
  readsAs_obj (List.forall₂_same.mpr fun m hm => ⟨rfl, h m hm⟩)

/-- **A value whose text is read back is the value of its text.** -/
theorem parse_text {j : Json} (h : ReadsBack j) : parse? j.text = some j :=
  parseBy_text h

end FilterSql.Json
