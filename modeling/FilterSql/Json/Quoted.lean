import FilterSql.Text.Hex

/-!
# Quoted strings

The JSON text of a string: quotes, backslashes and control characters are escaped, all other
characters stand for themselves.

* `quote`: the text of a string.
-/

namespace FilterSql.Json

/-- The text of one character within quotes. -/
def escape (c : Char) : List Char :=
  match c with
  | '"' => ['\\', '"']
  | '\\' => ['\\', '\\']
  | '\n' => ['\\', 'n']
  | '\r' => ['\\', 'r']
  | '\t' => ['\\', 't']
  | '\x08' => ['\\', 'b']
  | '\x0C' => ['\\', 'f']
  | c =>
    if c.toNat < 0x20 then '\\' :: 'u' :: Text.Hex.fixedWidth 4 c.toNat else [c]

/-- The text of a string's characters, with the quotes around it. -/
def quoteChars (cs : List Char) : List Char :=
  '"' :: (cs.flatMap escape ++ ['"'])

/-- The JSON text of a string. -/
def quote (s : String) : String :=
  String.ofList (quoteChars s.toList)

end FilterSql.Json
