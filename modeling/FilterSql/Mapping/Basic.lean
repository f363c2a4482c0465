import FilterSql.Error

/-!
# Property mappings

A mapping says where the properties of records are stored: for every name a column, its type and
the joins that lead from the root table to the column's table.

Model of `MappingDocument`, `MappedProperty`, `Join`, `RootTable` and `ValueType`.

* `ValueType`: the declared type of a column.
* `PropertyTable`: properties by name, in the order of their names.
* `Document`: a mapping as it is written down.
-/

namespace FilterSql

/-- The declared type of a column. -/
inductive ValueType where
  | text
  | integer
  | float
  | boolean
  | timestamp
  | geometry
deriving DecidableEq, Repr

/-- The name of a type (`as_str`). -/
def ValueType.name : ValueType → String
  | text => "text"
  | integer => "integer"
  | float => "float"
  | boolean => "boolean"
  | timestamp => "timestamp"
  | geometry => "geometry"

namespace Mapping

/-- One step of a path between tables: `fromTable.fromColumn = toTable.toColumn`. -/
structure Join where
  fromTable : String
  fromColumn : String
  toTable : String
  toColumn : String
deriving DecidableEq, Repr

/-- Where a property is stored (`MappedProperty`); `joins` leads from the root table to `table`. -/
structure Property where
  table : String
  column : String
  type : ValueType
  joins : List Join
deriving DecidableEq, Repr

/-- Whether the property lies outside the root table. -/
def Property.isJoined (p : Property) : Bool :=
  !p.joins.isEmpty

/-- The table that every query starts from, and the column that identifies its rows
(`RootTable`). -/
structure Root where
  table : String
  idColumn : String
deriving DecidableEq, Repr

/-! ## Tables of properties -/

/-- Inserts an entry into a list ordered by name, in the place of an entry of the same name. -/
def insertEntry (name : String) (p : Property) : List (String × Property) → List (String × Property)
  | [] => [(name, p)]
  | (n, q) :: entries =>
    if name < n then (name, p) :: (n, q) :: entries
    else if name = n then (name, p) :: entries
    else (n, q) :: insertEntry name p entries

theorem mem_insertEntry {name : String} {p : Property} {entries : List (String × Property)}
    {e : String × Property} (h : e ∈ insertEntry name p entries) :
    e = (name, p) ∨ e ∈ entries := by
  induction entries with
  | nil => simpa [insertEntry] using h
  | cons head entries ih =>
    simp only [insertEntry] at h
    split at h
    · simpa using h
    · split at h
      · rcases List.mem_cons.1 h with h | h
        · exact .inl h
        · exact .inr (List.mem_cons_of_mem _ h)
      · rcases List.mem_cons.1 h with h | h
        · exact .inr (h ▸ List.mem_cons_self)
        · exact (ih h).imp id (List.mem_cons_of_mem _)

theorem pairwise_insertEntry (name : String) (p : Property) {entries : List (String × Property)}
    (sorted : entries.Pairwise fun a b => a.1 < b.1) :
    (insertEntry name p entries).Pairwise fun a b => a.1 < b.1 := by
  induction entries with
  | nil => simp [insertEntry]
  | cons head entries ih =>
    have ⟨least, rest⟩ := List.pairwise_cons.1 sorted
    simp only [insertEntry]
    split
    · rename_i lt
      refine List.pairwise_cons.2 ⟨fun e he => ?_, sorted⟩
      rcases List.mem_cons.1 he with rfl | he
      · exact lt
      · exact String.lt_trans lt (least e he)
    · split
      · rename_i eq
        exact List.pairwise_cons.2 ⟨fun e he => eq ▸ least e he, rest⟩
      · rename_i nlt ne
        refine List.pairwise_cons.2 ⟨fun e he => ?_, ih rest⟩
        rcases mem_insertEntry he with rfl | he
        · exact Std.lt_of_le_of_ne (String.not_lt.1 nlt) (Ne.symm ne)
        · exact least e he

/-- Properties by name, in the order of their names. -/
structure PropertyTable where
  entries : List (String × Property)
  sorted : entries.Pairwise fun a b => a.1 < b.1
deriving DecidableEq

namespace PropertyTable

/-- The table without properties. -/
def empty : PropertyTable :=
  ⟨[], .nil⟩

/-- Adds a property, in the place of one of the same name. -/
def insert (t : PropertyTable) (name : String) (p : Property) : PropertyTable :=
  ⟨insertEntry name p t.entries, pairwise_insertEntry name p t.sorted⟩

/-- The property of a name. -/
def get? (t : PropertyTable) (name : String) : Option Property :=
  t.entries.lookup name

/-- Whether there is a property of that name. -/
def contains (t : PropertyTable) (name : String) : Bool :=
  (t.get? name).isSome

/-- The names in order. -/
def names (t : PropertyTable) : List String :=
  t.entries.map Prod.fst

/-- The number of properties. -/
def size (t : PropertyTable) : Nat :=
  t.entries.length

/-- The table of a list of entries, of which the last one of a name counts. -/
def ofList (entries : List (String × Property)) : PropertyTable :=
  entries.foldl (fun t e => t.insert e.1 e.2) empty

end PropertyTable

/-- A mapping as it is written down (`MappingDocument`). -/
structure Document where
  root : Root
  /-- The property that temporal filters are about. -/
  timeProperty : Option String
  /-- The property that procedure filters are about. -/
  procedureProperty : Option String
  properties : PropertyTable
deriving DecidableEq

end Mapping

end FilterSql
