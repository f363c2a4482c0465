import FilterSql.Json.Record
import FilterSql.Mapping.Check

/-!
# Tables of record bodies

The bodies of records are stored ready to be sent: one for each record, level of detail and format.

Model of `RecordTables`.

* `ElementSet`, `RecordFormat`: which body of a record.
* `RecordTables`: where bodies are stored.
* `RecordTables.validate`: all names that are rendered into statements are plain identifiers.
-/

namespace FilterSql.Records

open Json (fields? orDefault? oneOf?)

/-- The level of detail of a record. -/
inductive ElementSet where
  | brief
  | summary
  | full
deriving DecidableEq, Repr

/-- The name of a level (`as_str`). -/
def ElementSet.name : ElementSet → String
  | brief => "brief"
  | summary => "summary"
  | full => "full"

/-- The level of a form. -/
def ElementSet.ofJson? : Json → Option ElementSet :=
  oneOf? ([brief, summary, full].map fun e => (e.name, e))

/-- The format of a body. -/
inductive RecordFormat where
  | dublinCore
  | iso
deriving DecidableEq, Repr

/-- The number of a format in the tables. -/
def RecordFormat.code : RecordFormat → Int64
  | dublinCore => 1
  | iso => 2

/-- The format of a form. -/
def RecordFormat.ofJson? : Json → Option RecordFormat :=
  oneOf? [("dublincore", dublinCore), ("dc", dublinCore), ("iso", iso)]

/-- What a search answers. -/
inductive ResultType where
  /-- The number of matches only. -/
  | hits
  /-- The bodies of the matches too. -/
  | results
deriving DecidableEq, Repr

/-- The result type of a form. -/
def ResultType.ofJson? : Json → Option ResultType :=
  oneOf? [("hits", hits), ("results", results)]

/-- Where bodies are stored. -/
structure RecordTables where
  brief : String := "recordbrief"
  summary : String := "recordsummary"
  full : String := "recordfull"
  /-- The column that refers to the key of the root table. -/
  foreignKey : String := "fk_datasets"
  /-- The column of the body. -/
  data : String := "data"
  /-- The column of the format's number. -/
  format : String := "format"
  /-- The property by which single records are asked for. -/
  identifier : String := "identifier"
deriving DecidableEq, Repr

namespace RecordTables

/-- The table of a level. -/
def table (t : RecordTables) : ElementSet → String
  | .brief => t.brief
  | .summary => t.summary
  | .full => t.full

/-- The text of the statement that looks up a body (`body_lookup_sql`). -/
def lookupText (t : RecordTables) (e : ElementSet) : String :=
  s!"SELECT {t.data} FROM {t.table e} WHERE {t.foreignKey} = ? AND {t.format} = ?"

/-- The names that are rendered into statements, and what they are. -/
def identifiers (t : RecordTables) : List (String × String) :=
  [(t.brief, "brief record table"), (t.summary, "summary record table"),
    (t.full, "full record table"), (t.foreignKey, "record foreign key column"),
    (t.data, "record data column"), (t.format, "record format column")]

/-- Refuses a name that is no plain identifier. -/
def validate (t : RecordTables) : Except Error Unit :=
  t.identifiers.forM fun (name, context) => (checkIdentifier name context).mapError .mapping

/-- The names of the fields in documents. -/
def fieldNames : List String :=
  ["brief", "summary", "full", "fk_column", "data_column", "format_column", "identifier_property"]

/-- The form of the tables. -/
def toJson (t : RecordTables) : Json :=
  .obj (fieldNames.zip
    ([t.brief, t.summary, t.full, t.foreignKey, t.data, t.format, t.identifier].map .str))

/-- The tables of a form; every name has a default. -/
def ofJson? (j : Json) : Option RecordTables := do
  let d : RecordTables := {}
  match ← fields? fieldNames 0 j with
  | [brief, summary, full, foreignKey, data, format, identifier] =>
    some ⟨← orDefault? Json.str? d.brief brief, ← orDefault? Json.str? d.summary summary,
      ← orDefault? Json.str? d.full full, ← orDefault? Json.str? d.foreignKey foreignKey,
      ← orDefault? Json.str? d.data data, ← orDefault? Json.str? d.format format,
      ← orDefault? Json.str? d.identifier identifier⟩
  | _ => none

end RecordTables

end FilterSql.Records
