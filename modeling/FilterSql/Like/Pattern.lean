import FilterSql.Filter.Basic

/-!
# Patterns

The pattern of a filter, with special characters of its own, becomes the pattern of a
statement, in which `%` stands for any text, `_` for any character, and a backslash makes the next
character stand for itself.

Model of `translate`.

* `Pattern.ofFilter`: the statement's pattern.
* `Pattern.escaped`: whether the pattern needs the clause that declares the backslash.
-/

namespace FilterSql.Like

/-- The escape character of statements. -/
def sqlEscape : Char := '\\'

/-- A character that is special in the pattern of a statement. -/
def isSpecial (c : Char) : Bool :=
  c == '%' || c == '_' || c == sqlEscape

/-- A pattern of a statement (`SqlPattern`). -/
structure Pattern where
  chars : List Char
  /-- The pattern holds escapes. -/
  escaped : Bool
deriving DecidableEq, Repr

namespace Pattern

/-- The pattern as a string. -/
def text (p : Pattern) : String :=
  String.ofList p.chars

/-- A character in front of a pattern. -/
def cons (c : Char) (p : Pattern) : Pattern :=
  { p with chars := c :: p.chars }

/-- A character that stands for itself in front of a pattern (`push_literal`). -/
def consLiteral (c : Char) (p : Pattern) : Pattern :=
  if isSpecial c then ⟨sqlEscape :: c :: p.chars, true⟩ else p.cons c

/-- The pattern of a filter's pattern (`translate`). The escape character is looked at first, then
the wild card, then the character for a single one; an escape character at the end stands for
itself. -/
def ofFilter (o : LikeOptions) : List Char → Pattern
  | [] => ⟨[], false⟩
  | [c] =>
    if c = o.escapeChar then consLiteral c ⟨[], false⟩
    else if c = o.wildCard then ⟨['%'], false⟩
    else if c = o.singleChar then ⟨['_'], false⟩
    else consLiteral c ⟨[], false⟩
  | c :: d :: cs =>
    if c = o.escapeChar then consLiteral d (ofFilter o cs)
    else if c = o.wildCard then cons '%' (ofFilter o (d :: cs))
    else if c = o.singleChar then cons '_' (ofFilter o (d :: cs))
    else consLiteral c (ofFilter o (d :: cs))

end Pattern

end FilterSql.Like
