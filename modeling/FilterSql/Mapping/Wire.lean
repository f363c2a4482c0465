import FilterSql.Json.Reader
import FilterSql.Json.Record
import FilterSql.Mapping.Check

/-!
# Mapping documents

The JSON form of mapping documents.

Model of the documents of `PropertyMapping`.

* `Document.toJson`, `Document.ofJson?`: the form of a document and the document of a form.
* `Mapping.parse`: the mapping of a text.
* `Mapping.load`: the mapping of a file, read by a given function.
-/

namespace FilterSql

open Json (fields? required? orDefault? optional? oneOf? ofOption)

/-- The type of a form. Some types have further names. -/
def ValueType.ofJson? : Json → Option ValueType :=
  oneOf? [("text", text), ("string", text), ("integer", integer), ("int", integer),
    ("long", integer), ("float", float), ("double", float), ("decimal", float),
    ("boolean", boolean), ("bool", boolean), ("timestamp", timestamp), ("date", timestamp),
    ("datetime", timestamp), ("geometry", geometry)]

namespace Mapping

/-- The form of a join. -/
def Join.toJson (j : Join) : Json :=
  .obj [("from_table", .str j.fromTable), ("from_column", .str j.fromColumn),
    ("to_table", .str j.toTable), ("to_column", .str j.toColumn)]

/-- The join of a form. -/
def Join.ofJson? (j : Json) : Option Join := do
  match ← fields? ["from_table", "from_column", "to_table", "to_column"] 4 j with
  | [fromTable, fromColumn, toTable, toColumn] =>
    some ⟨← required? Json.str? fromTable, ← required? Json.str? fromColumn,
      ← required? Json.str? toTable, ← required? Json.str? toColumn⟩
  | _ => none

/-- The form of a property. -/
def Property.toJson (p : Property) : Json :=
  .obj [("table", .str p.table), ("column", .str p.column), ("type", .str p.type.name),
    ("joins", .arr (p.joins.map Join.toJson))]

/-- The property of a form: text in the root table unless it says otherwise. -/
def Property.ofJson? (j : Json) : Option Property := do
  match ← fields? ["table", "column", "type", "joins"] 2 j with
  | [table, column, type, joins] =>
    some ⟨← required? Json.str? table, ← required? Json.str? column,
      ← orDefault? ValueType.ofJson? .text type,
      ← orDefault? (Json.list? Join.ofJson?) [] joins⟩
  | _ => none

/-- The form of a root table. -/
def Root.toJson (r : Root) : Json :=
  .obj [("table", .str r.table), ("id_column", .str r.idColumn)]

/-- The root table of a form. -/
def Root.ofJson? (j : Json) : Option Root := do
  match ← fields? ["table", "id_column"] 2 j with
  | [table, idColumn] => some ⟨← required? Json.str? table, ← required? Json.str? idColumn⟩
  | _ => none

/-- The table of properties of a form: an object, of whose members with one name the last one
counts. -/
def PropertyTable.ofJson? : Json → Option PropertyTable
  | .obj members =>
    (members.mapM fun m => (Property.ofJson? m.2).map (Prod.mk m.1)).map PropertyTable.ofList
  | _ => none

namespace Document

/-- The form of a document. -/
def toJson (d : Document) : Json :=
  .obj [("root", d.root.toJson), ("time_property", ofOption .str d.timeProperty),
    ("procedure_property", ofOption .str d.procedureProperty),
    ("properties", .obj (d.properties.entries.map fun e => (e.1, e.2.toJson)))]

/-- The document of a form. -/
def ofJson? (j : Json) : Option Document := do
  match ← fields? ["root", "time_property", "procedure_property", "properties"] 4 j with
  | [root, timeProperty, procedureProperty, properties] =>
    some ⟨← required? Root.ofJson? root, ← optional? Json.str? timeProperty,
      ← optional? Json.str? procedureProperty, ← required? PropertyTable.ofJson? properties⟩
  | _ => none

/-- The document of a JSON value, if it is one. -/
def ofJson (j : Json) : Except MappingError Document :=
  match ofJson? j with
  | some d => .ok d
  | none => .error .malformed

end Document

/-- The mapping of a text (`from_json`). -/
def parse (text : String) : Except MappingError Mapping := do
  match Json.parse? text with
  | some j => Mapping.ofDocument (← Document.ofJson j)
  | none => .error .malformed

/-- The mapping of the file at `path`, given what reading files yields: a content or the text of a
failure. -/
def load (read : String → Except String String) (path : String) : Except MappingError Mapping :=
  match read path with
  | .ok text => parse text
  | .error cause => .error (.unreadable path cause)

end Mapping

end FilterSql
