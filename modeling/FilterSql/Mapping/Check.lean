import FilterSql.Mapping.Basic
import FilterSql.Text.Blank

/-!
# Checked mappings

A document can serve as a mapping if all names that would be rendered into statements are plain
identifiers, if the joins of every property lead from the root table to the property's table, and
if the properties with a role are declared.

Model of `PropertyMapping` and its checks.

* `Document.check`: the first fault of a document.
* `Mapping`: a document without a fault.
-/

namespace FilterSql

/-! ## Identifiers -/

/-- A plain identifier (`IDENTIFIER_PATTERN`): an ASCII letter or underscore, then ASCII letters,
digits and underscores. -/
def isIdentifierChars : List Char → Bool
  | [] => false
  | c :: cs => (c.isAlpha || c == '_') && cs.all fun c => c.isAlphanum || c == '_'

/-- `isIdentifierChars` on strings. -/
def isIdentifier (s : String) : Bool :=
  isIdentifierChars s.toList

/-- Refuses a name that is no plain identifier. -/
def checkIdentifier (identifier context : String) : Except MappingError Unit :=
  if isIdentifier identifier then .ok ()
  else .error (.invalidIdentifier identifier context)

namespace Mapping

/-! ## Join paths -/

/-- Checks the joins of a property from join number `step` on, the path having reached the table
`current`. Answers the table at the end. -/
def checkJoins (name : String) : List Join → Nat → String → Except MappingError String
  | [], _, current => .ok current
  | join :: joins, step, current => do
    let context := s!"join {step} of property '{name}'"
    checkIdentifier join.fromTable context
    checkIdentifier join.fromColumn context
    checkIdentifier join.toTable context
    checkIdentifier join.toColumn context
    if join.fromTable ≠ current then
      throw (.brokenJoinPath name
        s!"join {step} starts at '{join.fromTable}' but the path is at '{current}'")
    checkJoins name joins (step + 1) join.toTable

/-- Checks the names and the joins of a property (`validate_property`). -/
def Property.check (p : Property) (root name : String) : Except MappingError Unit := do
  checkIdentifier p.table s!"table of property '{name}'"
  checkIdentifier p.column s!"column of property '{name}'"
  if p.joins.isEmpty then
    if p.table ≠ root then
      throw (.brokenJoinPath name
        s!"table '{p.table}' is not the root table and no joins are declared")
  else
    let reached ← checkJoins name p.joins 0 root
    if reached ≠ p.table then
      throw (.brokenJoinPath name s!"path ends at '{reached}' instead of '{p.table}'")

/-! ## Documents -/

namespace Document

/-- Checks a property and its name, which has to hold more than blanks. -/
def checkEntry (root : String) (entry : String × Property) : Except MappingError Unit := do
  if (Text.trim entry.1.toList).isEmpty then
    throw (.invalidIdentifier entry.1 "property name")
  entry.2.check root entry.1

/-- Refuses a property with a role that is not declared. -/
def checkRole (d : Document) (role : String) : Option String → Except MappingError Unit
  | none => .ok ()
  | some property =>
    if d.properties.contains property then .ok () else .error (.undeclaredRole role property)

/-- The first fault of a document (`validate_document`): in the root table, in a property,
properties in the order of their names, or in a role. -/
def check (d : Document) : Except MappingError Unit := do
  checkIdentifier d.root.table "root table"
  checkIdentifier d.root.idColumn "root id column"
  d.properties.entries.forM (checkEntry d.root.table)
  d.checkRole "time" d.timeProperty
  d.checkRole "procedure" d.procedureProperty

end Document

end Mapping

/-- A mapping (`PropertyMapping`): a document that has been checked. -/
structure Mapping where
  document : Mapping.Document
  checked : document.check = .ok ()

namespace Mapping

/-- The mapping of a document (`from_document`). -/
def ofDocument (d : Document) : Except MappingError Mapping :=
  match h : d.check with
  | .ok () => .ok ⟨d, h⟩
  | .error e => .error e

/-- The root table. -/
def root (m : Mapping) : Root :=
  m.document.root

/-- The property that temporal filters are about. -/
def timeProperty (m : Mapping) : Option String :=
  m.document.timeProperty

/-- The property that procedure filters are about. -/
def procedureProperty (m : Mapping) : Option String :=
  m.document.procedureProperty

/-- The properties. -/
def properties (m : Mapping) : PropertyTable :=
  m.document.properties

/-- The property of a name. -/
def resolve (m : Mapping) (name : String) : Except Error Property :=
  match m.properties.get? name with
  | some p => .ok p
  | none => .error (.unknownProperty name)

/-- Whether there is a property of that name. -/
def contains (m : Mapping) (name : String) : Bool :=
  m.properties.contains name

/-- The number of properties (`len`). -/
def size (m : Mapping) : Nat :=
  m.properties.size

end Mapping

end FilterSql
