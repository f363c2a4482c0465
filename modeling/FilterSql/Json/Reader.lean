import FilterSql.Json.Number
import FilterSql.Text.Hex

/-!
# Reading JSON texts

A text is one JSON value with blanks around it. Every part of the grammar is checked: raw control
characters, leading zeros and trailing commas are refused. A surrogate without a partner is not
against the grammar, but what it stands in, a string or the object of a key, is `Json.unpaired`.

* `Json.parse?`: the value of a text.
* `Json.parseBy?`: the value, with another way to round its numbers.
* `Json.parseNested?`: the value, if its brackets are not nested too deeply.
-/

namespace FilterSql.Json

open FilterSql.Text (Scan)

namespace Reader

/-- Skips the blanks of the grammar. -/
def skip (cs : List Char) : List Char :=
  cs.dropWhile fun c => c == ' ' || c == '\n' || c == '\t' || c == '\r'

/-- The value of four hexadecimal digits. -/
def hexValues? (a b c d : Char) : Option Nat := do
  let a ← Text.Hex.value? a
  let b ← Text.Hex.value? b
  let c ← Text.Hex.value? c
  let d ← Text.Hex.value? d
  some (((a * 16 + b) * 16 + c) * 16 + d)

/-- The character of a short escape. -/
def shortEscape? : Char → Option Char
  | '"' => some '"'
  | '\\' => some '\\'
  | '/' => some '/'
  | 'b' => some '\x08'
  | 'f' => some '\x0C'
  | 'n' => some '\n'
  | 'r' => some '\r'
  | 't' => some '\t'
  | _ => none

/-- A first surrogate. -/
def isHigh (n : Nat) : Bool := 0xD800 ≤ n && n < 0xDC00

/-- A second surrogate. -/
def isLow (n : Nat) : Bool := 0xDC00 ≤ n && n < 0xE000

/-- The rest of a string after its opening quote. `high` is a first surrogate that has just been
read and waits for the second one. -/
def string (high : Option Nat) : Scan (List Char)
  | '\\' :: 'u' :: a :: b :: c :: d :: cs =>
    match hexValues? a b c d, high with
    | none, _ => none
    | some n, some h =>
      if isLow n then
        (string none cs).map fun (s, cs) =>
          (Char.ofNat (0x10000 + (h - 0xD800) * 0x400 + (n - 0xDC00)) :: s, cs)
      else none
    | some n, none =>
      if isHigh n then string (some n) cs
      else if isLow n then none
      else (string none cs).map fun (s, cs) => (Char.ofNat n :: s, cs)
  | '\\' :: c :: cs =>
    match shortEscape? c, high with
    | some c, none => (string none cs).map fun (s, cs) => (c :: s, cs)
    | _, _ => none
  | c :: cs =>
    if high.isSome || c == '\\' || c.toNat < 0x20 then none
    else if c == '"' then some ([], cs)
    else (string none cs).map fun (s, cs) => (c :: s, cs)
  | [] => none

/-- Passes over the rest of a string, surrogates that have no partner included. -/
def passString : List Char → Option (List Char)
  | '\\' :: 'u' :: a :: b :: c :: d :: cs =>
    if (hexValues? a b c d).isSome then passString cs else none
  | '\\' :: c :: cs => if (shortEscape? c).isSome then passString cs else none
  | c :: cs =>
    if c == '\\' || c.toNat < 0x20 then none else if c == '"' then some cs else passString cs
  | [] => none

/-- The text of a string after its opening quote; none if a surrogate has no partner. -/
def quoted : Scan (Option String) := fun cs =>
  match string none cs with
  | some (s, cs) => some (some (String.ofList s), cs)
  | none => (passString cs).map (none, ·)

/-- A member in front of others, if its key and theirs are texts. -/
def consMember (key : Option String) (j : Json) (ms : Option (List (String × Json))) :
    Option (List (String × Json)) := do
  let key ← key
  let ms ← ms
  some ((key, j) :: ms)

/-- A given word. -/
def word (w : String) (j : Json) : Scan Json := fun cs =>
  if w.toList.isPrefixOf cs then some (j, cs.drop w.length) else none

mutual

/-- A value; `fuel` bounds its length. -/
def value (double : Numeral → Float) : Nat → Scan Json
  | 0, _ => none
  | fuel + 1, cs =>
    match skip cs with
    | '"' :: cs => (quoted cs).map fun (s, cs) => (s.elim .unpaired .str, cs)
    | '[' :: cs =>
      match skip cs with
      | ']' :: cs => some (.arr [], cs)
      | cs => (items double fuel cs).map fun (js, cs) => (.arr js, cs)
    | '{' :: cs =>
      match skip cs with
      | '}' :: cs => some (.obj [], cs)
      | cs => (members double fuel cs).map fun (ms, cs) => (ms.elim .unpaired .obj, cs)
    | '-' :: cs => number double true cs
    | 't' :: cs => word "rue" (.bool true) cs
    | 'f' :: cs => word "alse" (.bool false) cs
    | 'n' :: cs => word "ull" .null cs
    | cs => number double false cs

/-- The items of an array up to its closing bracket. -/
def items (double : Numeral → Float) : Nat → Scan (List Json)
  | 0, _ => none
  | fuel + 1, cs => do
    let (j, cs) ← value double fuel cs
    match skip cs with
    | ',' :: cs => (items double fuel cs).map fun (js, cs) => (j :: js, cs)
    | ']' :: cs => some ([j], cs)
    | _ => none

/-- The members of an object up to its closing brace; none if some key is no text. -/
def members (double : Numeral → Float) : Nat → Scan (Option (List (String × Json)))
  | 0, _ => none
  | fuel + 1, cs =>
    match skip cs with
    | '"' :: cs => do
      let (key, cs) ← quoted cs
      match skip cs with
      | ':' :: cs => do
        let (j, cs) ← value double fuel cs
        match skip cs with
        | ',' :: cs => (members double fuel cs).map fun (ms, cs) => (consMember key j ms, cs)
        | '}' :: cs => some (consMember key j (some []), cs)
        | _ => none
      | _ => none
    | _ => none

end

end Reader

/-- The value of a JSON text, with the doubles that `double` gives of its numbers. Every step reads
a character, so the text's length bounds the reading. -/
def parseBy? (double : Numeral → Float) (s : String) : Option Json :=
  let cs := s.toList
  match Reader.value double (2 * cs.length + 2) cs with
  | some (j, rest) => if (Reader.skip rest).isEmpty then some j else none
  | none => none

/-- The value of a JSON text. -/
def parse? (s : String) : Option Json :=
  parseBy? Reader.magnitude s

/-- The nesting of brackets at which a reader of values gives a text up. -/
def nestingLimit : Nat := 128

/-- The value of a JSON text for a reader that keeps all of it. One that passes over members that it
does not know is not bound by their nesting. -/
def parseNested? (s : String) : Option Json :=
  (parse? s).filter fun j => j.nesting < nestingLimit

end FilterSql.Json
