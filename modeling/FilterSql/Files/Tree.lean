import FilterSql.Text.Utf8

/-!
# Files

The files that configurations, mappings and databases are found among: what stands at the places
below the root, and the place where relative paths start.

* `FileTree.find`: the place that a path leads to.
* `FileTree.read`: the content of a file, or the text of a failure.
* `FileTree.create`: an empty file.
-/

namespace FilterSql

/-- A name in a directory, in bytes. -/
abbrev FileName := List UInt8

/-- The names that lead from the root to a place. -/
abbrev Place := List FileName

/-- What stands at a place. -/
inductive FileNode where
  | directory
  | file (content : String)
deriving DecidableEq, Repr

/-- Why a path leads nowhere, or not to a file. -/
inductive PathFault where
  | missing
  | notDirectory
  | isDirectory
  | nameTooLong
  | nulCharacter
deriving DecidableEq, Repr

/-- The text of a fault. -/
def PathFault.message : PathFault → String
  | missing => "No such file or directory (os error 2)"
  | notDirectory => "Not a directory (os error 20)"
  | isDirectory => "Is a directory (os error 21)"
  | nameTooLong => "File name too long (os error 36)"
  | nulCharacter => "file name contained an unexpected NUL byte"

namespace Path

/-- The names of a path, which slashes separate. Some may be empty. -/
def names (path : List UInt8) : List FileName :=
  path.splitOnP (· == 0x2F)

/-- Whether a path starts at the root. -/
def isAbsolute (path : List UInt8) : Bool :=
  path.head? == some 0x2F

/-- Whether a name stands for the directory that it is in. -/
def isHere (name : FileName) : Bool :=
  name.isEmpty || name == [0x2E]

/-- Whether a name stands for the directory above. -/
def isAbove (name : FileName) : Bool :=
  name == [0x2E, 0x2E]

/-- The greatest length of a name. -/
def greatestName : Nat := 255

/-- No path is as long as this. -/
def lengthLimit : Nat := 4096

end Path

/-- What stands at the places below the root. -/
structure FileTree where
  nodes : List (Place × FileNode)
  /-- The directory where relative paths start. -/
  working : Place := []

namespace FileTree

variable (t : FileTree)

/-- What stands at a place. On the way to a place there are directories. -/
def node? (p : Place) : Option FileNode :=
  match t.nodes.lookup p with
  | some n => some n
  | none =>
    if p.isPrefixOf t.working || t.nodes.any fun e => p.isPrefixOf e.1 then some .directory
    else none

/-- The place where a path starts. -/
def start (path : List UInt8) : Place :=
  if Path.isAbsolute path then [] else t.working

/-- The place that a name leads to. -/
def step (p : Place) (name : FileName) : Except PathFault Place :=
  match t.node? p with
  | some .directory =>
    if Path.isHere name then .ok p
    else if Path.isAbove name then .ok p.dropLast
    else if Path.greatestName < name.length then .error .nameTooLong
    else if (t.node? (p ++ [name])).isSome then .ok (p ++ [name])
    else .error .missing
  | _ => .error .notDirectory

/-- The place that a path leads to. -/
def find (path : List UInt8) : Except PathFault Place :=
  if path.contains 0 then .error .nulCharacter
  else if path.isEmpty then .error .missing
  else if Path.lengthLimit ≤ path.length then .error .nameTooLong
  else (Path.names path).foldlM t.step (t.start path)

/-- The content of the file that a path leads to. -/
def content (path : String) : Except PathFault String := do
  match t.node? (← t.find (Text.Utf8.encode path)) with
  | some (.file content) => pure content
  | _ => throw .isDirectory

/-- The content of a path, or the text of a failure. -/
def read (path : String) : Except String String :=
  (t.content path).mapError PathFault.message

/-- An empty file at a place. -/
def create (p : Place) : FileTree :=
  { t with nodes := (p, .file "") :: t.nodes }

/-- The tree of paths from the root. -/
def ofPaths (nodes : List (String × FileNode)) (working : String) : FileTree :=
  let place (path : String) : Place :=
    (Path.names (Text.Utf8.encode path)).filter fun name => !name.isEmpty
  ⟨nodes.map fun e => (place e.1, e.2), place working⟩

end FileTree

end FilterSql
