import FilterSql.Proofs.Mapping.Names
import FilterSql.Proofs.Sql.Condition

/-!
# Reading conditions

A reader of the conditions of statements that knows nothing of how they were written. Quoted text
is opaque, the k-th question mark outside of it denotes the k-th parameter, and OR binds less than
AND, AND less than NOT, NOT less than predicates. The AND after BETWEEN belongs to it.

* `lex`: the tokens of a text with its parameters.
* `readTerm`, `readPredicate`, `readDisjunction`: the grammar, by recursive descent.
* `Condition.read?`: the condition that a text and its parameters denote.
* `truth?`: its truth value for a row.
-/

namespace FilterSql.Sql

/-! ## Tokens -/

/-- The words that are not names. -/
inductive Keyword where
  | and
  | or
  | not
  | between
  | is
  | null
  | like
  | escape
  | isIn
deriving DecidableEq, Repr

/-- The keywords by their texts. -/
def keywords : List (String × Keyword) :=
  [("AND", .and), ("OR", .or), ("NOT", .not), ("BETWEEN", .between), ("IS", .is), ("NULL", .null),
    ("LIKE", .like), ("ESCAPE", .escape), ("IN", .isIn)]

/-- A token. A placeholder comes with its parameter. -/
inductive Token where
  | keyword (k : Keyword)
  /-- A qualified name. -/
  | column (c : Column)
  | name (s : String)
  | number (n : Nat)
  | value (v : Scalar)
  | quoted (s : String)
  | comparison (op : ComparisonOp)
  | overlaps
  | opening
  | closing
  | comma
deriving DecidableEq

/-- A character of a word. Words are qualified names, names, numbers and keywords. -/
def isWordChar (c : Char) : Bool :=
  isNameChar c || c == '.'

/-- A character of an operator. -/
def isOperatorChar (c : Char) : Bool :=
  c == '=' || c == '<' || c == '>' || c == '&'

/-- The token of a word. A point makes it a qualified name, whatever its parts look like. -/
def wordToken (cs : List Char) : Token :=
  match cs.dropWhile (· != '.') with
  | _ :: name => .column ⟨.ofList (cs.takeWhile (· != '.')), .ofList name⟩
  | [] =>
    if cs.all Char.isDigit then .number (Nat.ofDigitChars 10 cs 0)
    else
      match keywords.lookup (.ofList cs) with
      | some k => .keyword k
      | none => .name (.ofList cs)

/-- The operators by their texts. -/
def operators : List (String × Token) :=
  ([.eq, .neq, .lt, .lte, .gt, .gte].map fun op => (ComparisonOp.sql op, .comparison op)) ++
    [("&&", .overlaps)]

/-- A token that may go on. -/
inductive Pending where
  | blank
  | word (cs : List Char)
  | operator (cs : List Char)
  /-- Within quotes. -/
  | quoted (quote : Char) (cs : List Char)
  /-- After a quote that ends the quoted text unless another one follows. -/
  | closed (quote : Char) (cs : List Char)
deriving DecidableEq

namespace Pending

/-- The token that goes on with a character, if it does. A doubled quote stands for one. -/
def push (c : Char) : Pending → Option Pending
  | blank => none
  | word cs => if isWordChar c then some (word (cs ++ [c])) else none
  | operator cs => if isOperatorChar c then some (operator (cs ++ [c])) else none
  | quoted q cs => some (if c = q then closed q cs else quoted q (cs ++ [c]))
  | closed q cs => if c = q then some (quoted q (cs ++ [c])) else none

/-- The tokens at the end; none for an unknown operator and for quoted text that is not closed. -/
def finish : Pending → Option (List Token)
  | blank => some []
  | word cs => some [wordToken cs]
  | operator cs => (operators.lookup (.ofList cs)).map ([·])
  | quoted .. => none
  | closed _ cs => some [.quoted (.ofList cs)]

end Pending

/-- What a character outside of other tokens is or begins. -/
def begins (c : Char) : Option (List Token × Pending) :=
  if c = ' ' then some ([], .blank)
  else if c = '(' then some ([.opening], .blank)
  else if c = ')' then some ([.closing], .blank)
  else if c = ',' then some ([.comma], .blank)
  else if c = '\'' ∨ c = '"' then some ([], .quoted c [])
  else if isWordChar c then some ([], .word [c])
  else if isOperatorChar c then some ([], .operator [c])
  else none

/-- Reads a character: the tokens that end with it, the token that may go on, and the parameters
that are left. -/
def step (p : Pending) (vs : List Scalar) (c : Char) :
    Option (List Token × Pending × List Scalar) :=
  match p.push c with
  | some q => some ([], q, vs)
  | none => do
    let done ← p.finish
    if c = '?' then
      match vs with
      | [] => none
      | v :: vs => some (done ++ [.value v], .blank, vs)
    else
      let (ts, q) ← begins c
      some (done ++ ts, q, vs)

/-- Reads characters from left to right. -/
def run : Pending → List Scalar → List Char → Option (List Token × Pending × List Scalar)
  | p, vs, [] => some ([], p, vs)
  | p, vs, c :: cs => do
    let (ts, p, vs) ← step p vs c
    let (us, p, vs) ← run p vs cs
    some (ts ++ us, p, vs)

/-- The tokens of a text whose placeholders stand for the parameters in their order. There is a
placeholder for every parameter. -/
def lex (sql : String) (params : List Scalar) : Option (List Token) :=
  match run .blank params sql.toList with
  | some (ts, p, []) => p.finish.map (ts ++ ·)
  | _ => none

/-! ## Grammar -/

mutual

/-- An operand. -/
def readTerm : Nat → List Token → Option (Term × List Token)
  | fuel + 1, .name f :: .opening :: ts => do
    let (args, ts) ← readTerms fuel ts
    some (.call f args, ts)
  | _ + 1, .column c :: ts => some (.column c, ts)
  | _ + 1, .value v :: ts => some (.value v, ts)
  | _ + 1, .number n :: ts => some (.number n, ts)
  | _, _ => none

/-- Operands between commas, and the parenthesis that closes the list. -/
def readTerms : Nat → List Token → Option (List Term × List Token)
  | 0, _ => none
  | fuel + 1, ts => do
    let (a, ts) ← readTerm fuel ts
    match ts with
    | .closing :: ts => some ([a], ts)
    | .comma :: ts => do
      let (as, ts) ← readTerms fuel ts
      some (a :: as, ts)
    | _ => none

end

/-- A predicate. -/
def readPredicate (fuel : Nat) (ts : List Token) : Option (Condition × List Token) := do
  let (s, ts) ← readTerm fuel ts
  match ts with
  | .comparison op :: ts => do
    let (r, ts) ← readTerm fuel ts
    some (.compare op s r, ts)
  | .overlaps :: ts => do
    let (r, ts) ← readTerm fuel ts
    some (.overlaps s r, ts)
  | .keyword .between :: ts => do
    let (low, ts) ← readTerm fuel ts
    match ts with
    | .keyword .and :: ts => do
      let (high, ts) ← readTerm fuel ts
      some (.between s low high, ts)
    | _ => none
  | .keyword .is :: .keyword .null :: ts => some (.isNull s, ts)
  | .keyword .is :: .keyword .not :: .keyword .null :: ts => some (.isNotNull s, ts)
  | .keyword .like :: ts => do
    let (p, ts) ← readTerm fuel ts
    match ts with
    | .keyword .escape :: .quoted e :: ts => some (.like s p (some e), ts)
    | ts => some (.like s p none, ts)
  | .keyword .isIn :: .opening :: ts => do
    let (cs, ts) ← readTerms fuel ts
    some (.isIn s cs, ts)
  | ts => some (.test s, ts)

mutual

/-- A predicate, a negation or a condition in parentheses. -/
def readFactor : Nat → List Token → Option (Condition × List Token)
  | 0, _ => none
  | fuel + 1, .keyword .not :: ts => do
    let (c, ts) ← readFactor fuel ts
    some (.not c, ts)
  | fuel + 1, .opening :: ts => do
    let (c, ts) ← readDisjunction fuel ts
    match ts with
    | .closing :: ts => some (.group c, ts)
    | _ => none
  | fuel + 1, ts => readPredicate fuel ts

/-- Factors between ANDs. -/
def readConjunction : Nat → List Token → Option (Condition × List Token)
  | 0, _ => none
  | fuel + 1, ts => do
    let (c, ts) ← readFactor fuel ts
    match ts with
    | .keyword .and :: ts => do
      let (d, ts) ← readConjunction fuel ts
      some (.and c d, ts)
    | ts => some (c, ts)

/-- Conjunctions between ORs. -/
def readDisjunction : Nat → List Token → Option (Condition × List Token)
  | 0, _ => none
  | fuel + 1, ts => do
    let (c, ts) ← readConjunction fuel ts
    match ts with
    | .keyword .or :: ts => do
      let (d, ts) ← readDisjunction fuel ts
      some (.or c d, ts)
    | ts => some (c, ts)

end

/-- The condition that a text with its parameters denotes. A call of the grammar takes a token or
is one of three levels, so the bound on the calls suffices. -/
def Condition.read? (sql : String) (params : List Scalar) : Option Condition := do
  let ts ← lex sql params
  match readDisjunction (4 * ts.length + 2) ts with
  | some (c, []) => some c
  | _ => none

/-- The truth value of a text with its parameters for a row, if it is the text of a condition. -/
def truth? (I : Interpretation) (t : Tuple) (sql : String) (params : List Scalar) : Option Truth :=
  (Condition.read? sql params).map (Condition.eval I t)

end FilterSql.Sql
