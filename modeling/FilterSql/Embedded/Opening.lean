import FilterSql.Embedded.Address
import FilterSql.Files.Tree

/-!
# Opening databases

The bundled database finds the place of its file name by name, as the names are written: `..` takes
away the name before it, whatever that name leads to. Every place on the way may be missing, but
none may be out of reach. A file that is missing at the end is made, if its directory is there.

* `fullPlace?`: the place of a path.
* `FileTree.openDatabase`: the files after a database was opened, or why it cannot be.
-/

namespace FilterSql

namespace Embedded

/-- The greatest length of the path of a file. -/
def greatestPath : Nat := 512

/-- The length of what is appended to the path of a database to name the file of its journal. -/
def journalSuffix : Nat := 8

/-- The greatest length of a path in memory. -/
def greatestMemoryPath : Nat := 1024

/-- The length of a place's path, with a slash before each name. -/
def pathLength (p : Place) : Nat :=
  p.flatten.length + p.length

/-- Whether a place is there, or could be: no name on the way is that of a file or too long. -/
def isWithinReach (t : FileTree) (p : Place) : Bool :=
  match p.foldlM t.step [] with
  | .ok _ | .error .missing => true
  | .error _ => false

/-- The place after one more name. -/
def extend? (t : FileTree) (p : Place) (name : FileName) : Option Place :=
  if Path.isHere name then some p
  else if Path.isAbove name then some p.dropLast
  else
    let next := p ++ [name]
    if pathLength next < greatestPath && isWithinReach t next then some next else none

/-- The place of a path, for whose journal there has to be a path too. -/
def fullPlace? (t : FileTree) (path : List UInt8) : Option Place := do
  let p ← (Path.names path).foldlM (extend? t) (t.start path)
  if p.isEmpty || greatestPath < pathLength p + journalSuffix then none else some p

/-- The files after a database was opened at a place; `none` if there is nothing that can be
opened. A directory can be opened for reading, but not be read. -/
def openAt (t : FileTree) (access : Access) (p : Place) : Except OpenFault (Option FileTree) :=
  match t.node? p, access with
  | some (.file _), _ => .ok (some t)
  | some .directory, .read => .error .unreadable
  | none, .create =>
    .ok (if t.node? p.dropLast = some .directory then some (t.create p) else none)
  | _, _ => .ok none

/-- Refuses an option that names a file as a model, if there is no such file. -/
def checkModel (t : FileTree) (a : Address) : Except OpenFault Unit :=
  match a.options.lookup "modeof" with
  | some path => ((t.find (Text.Utf8.encode path)).mapError fun _ => .unreadable).map fun _ => ()
  | none => .ok ()

/-- Whether an address has no file: it has no path, or the one that stands for memory. -/
def isFileless (a : Address) (m : Manner) : Bool :=
  m.access == .memory || a.path.isEmpty || a.path == Text.Utf8.encode ":memory:"

/-- The files after the database of an address was opened; `none` if it cannot be. -/
def openAddress (t : FileTree) (a : Address) : Except OpenFault (Option FileTree) := do
  let m ← a.manner
  if isFileless a m then pure (some t)
  else if m.system = "memdb" then
    pure (if a.path.length + journalSuffix ≤ greatestMemoryPath then some t else none)
  else
    match fullPlace? t a.path with
    | none => pure none
    | some p => do
      checkModel t a
      openAt t m.access p

end Embedded

open Embedded in
/-- The files after a database was opened, or why it cannot be (`open_sqlite_pool`). -/
def FileTree.openDatabase (t : FileTree) (path : String) : Except OpenFault FileTree := do
  let bytes := Text.Utf8.encode path
  if bytes.contains 0 then
    throw (.nulByte (bytes.takeWhile (· != 0)).length)
  match ← openAddress t (← Address.parse bytes) with
  | some t => pure t
  | none => throw (.unopenable path)

end FilterSql
