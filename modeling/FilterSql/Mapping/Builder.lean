import FilterSql.Mapping.Check

/-!
# Building mappings

A mapping put together step by step instead of read from a document.

Model of `MappingBuilder`.

* `Builder.column`, `Builder.joinedColumn`, `Builder.property`: declarations.
* `Builder.build`: the mapping of all declarations, each name declared once.
-/

namespace FilterSql.Mapping

/-- The declarations made so far, in their order (`MappingBuilder`). -/
structure Builder where
  root : Root
  timeProperty : Option String := none
  procedureProperty : Option String := none
  properties : List (String × Property) := []

namespace Builder

/-- A builder without declarations (`builder`). -/
def ofRoot (table idColumn : String) : Builder where
  root := ⟨table, idColumn⟩

/-- Declares a property. -/
def property (b : Builder) (name : String) (p : Property) : Builder :=
  { b with properties := b.properties ++ [(name, p)] }

/-- Declares a column of the root table. -/
def column (b : Builder) (name column : String) (type : ValueType) : Builder :=
  b.property name ⟨b.root.table, column, type, []⟩

/-- Declares a column of a table one join away from the root table. -/
def joinedColumn (b : Builder) (name table column : String) (type : ValueType)
    (foreignKey : String) : Builder :=
  b.property name ⟨table, column, type, [⟨b.root.table, b.root.idColumn, table, foreignKey⟩]⟩

/-- Gives a property the role of the time property (`time_property`). -/
def withTimeProperty (b : Builder) (name : String) : Builder :=
  { b with timeProperty := some name }

/-- Gives a property the role of the procedure property (`procedure_property`). -/
def withProcedureProperty (b : Builder) (name : String) : Builder :=
  { b with procedureProperty := some name }

/-- The table of the declarations; refuses the first name that is declared again. -/
def table (t : PropertyTable) : List (String × Property) → Except MappingError PropertyTable
  | [] => .ok t
  | (name, p) :: entries =>
    if t.contains name then .error (.duplicateProperty name)
    else table (t.insert name p) entries

/-- The mapping of all declarations. -/
def build (b : Builder) : Except MappingError Mapping := do
  let properties ← table .empty b.properties
  Mapping.ofDocument ⟨b.root, b.timeProperty, b.procedureProperty, properties⟩

end Builder

end FilterSql.Mapping
