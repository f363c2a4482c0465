import FilterSql.Log.Line

/-!
# Masked lines

What two runs of one request log differs in the names of queries and in elapsed times. Masked lines
have numbers in place of the names, in the order in which names come up, and zero in place of all
times, so that the logs of two runs can be compared. Lines are masked as texts: a value begins after
its quoted key and ends before the next quotation mark.

* `maskLines`: a sequence of masked lines.
-/

namespace FilterSql.Log

/-- The length of a query's name. -/
def queryNameLength : Nat := 36

/-- What stands in front of a value in the text of a line. -/
def marker (key : String) : String :=
  Json.quote key ++ ":\""

/-- A text, split at all markers of a key, with `mask` applied to the text after each. A state goes
from left to right. -/
def maskAfter {σ : Type} (key : String) (mask : σ → String → String × σ) (s : σ) (text : String) :
    String × σ :=
  match text.splitOn (marker key) with
  | [] => (text, s)
  | first :: rest =>
    let (pieces, s) := rest.foldl
      (fun (pieces, s) piece =>
        let (piece, s) := mask s piece
        (pieces ++ [piece], s))
      ([first], s)
    ((marker key).intercalate pieces, s)

/-- The characters of a value that a text begins with. -/
def leadingValue (text : String) : List Char :=
  text.toList.takeWhile (· != '"')

/-- A text with another value in place of the one that it begins with. -/
def replaceValue (text value : String) : String :=
  value ++ String.ofList (text.toList.drop (leadingValue text).length)

/-- Puts a number in place of a query's name; `seen` are the names that have come up. -/
def maskName (seen : List String) (text : String) : String × List String :=
  if (leadingValue text).length = queryNameLength then
    let name := String.ofList (leadingValue text)
    let seen := if seen.contains name then seen else seen ++ [name]
    (replaceValue text s!"Q{seen.idxOf name + 1}", seen)
  else (text, seen)

/-- Puts zero in place of a time. -/
def maskTime (text : String) : String :=
  if (leadingValue text).all Char.isDigit then replaceValue text "0" else text

/-- The masked text of a line. -/
def maskLine (seen : List String) (text : String) : String × List String :=
  let (text, seen) := maskAfter "query_id" maskName seen text
  ((maskAfter "elapsed_ms" (fun _ piece => (maskTime piece, ())) () text).1, seen)

/-- The masked texts of lines, from left to right. -/
def maskLines (seen : List String) : List Line → List String × List String
  | [] => ([], seen)
  | l :: ls =>
    let (text, seen) := maskLine seen l.text
    let (texts, seen) := maskLines seen ls
    (text :: texts, seen)

end FilterSql.Log
