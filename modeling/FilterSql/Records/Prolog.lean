/-!
# Prologs of record bodies

Records are stored as XML documents of their own. To stand in a larger document, a body loses its
byte order mark and its XML declaration.

Model of `strip_prolog` and `XmlFragmentCopier`.

* `stripProlog`: a body without them.
* `Writer`: an output that bytes are written to.
* `Copier`: writes bodies to an output.
-/

namespace FilterSql.Records

/-- The byte order mark of UTF-8 (`UTF8_BOM`). -/
def byteOrderMark : List UInt8 := [0xEF, 0xBB, 0xBF]

/-- The start of an XML declaration: `<?xml`. -/
def declarationStart : List UInt8 := [0x3C, 0x3F, 0x78, 0x6D, 0x6C]

/-- White space of ASCII: tab, line feed, form feed, carriage return and space. -/
def isAsciiSpace (b : UInt8) : Bool :=
  b == 0x09 || b == 0x0A || b == 0x0C || b == 0x0D || b == 0x20

/-- The bytes from the first one that is no white space (`trim_start`). -/
def dropSpace (bytes : List UInt8) : List UInt8 :=
  bytes.dropWhile isAsciiSpace

/-- The bytes after the first `?>`, if there is one. -/
def afterDeclaration? : List UInt8 → Option (List UInt8)
  | 0x3F :: 0x3E :: rest => some rest
  | _ :: rest => afterDeclaration? rest
  | [] => none

/-- The bytes without `start`, if they begin with it. -/
def dropStart (start bytes : List UInt8) : List UInt8 :=
  if start.isPrefixOf bytes then bytes.drop start.length else bytes

/-- A body without byte order mark and XML declaration. White space around the declaration goes
with it; without a declaration it stays. -/
def stripProlog (body : List UInt8) : List UInt8 :=
  let body := dropStart byteOrderMark body
  let trimmed := dropSpace body
  if declarationStart.isPrefixOf trimmed then
    match afterDeclaration? trimmed with
    | some rest => dropSpace rest
    | none => body
  else body

/-! ## Output -/

/-- The behaviour of an output with states `ω`. A failure comes with its cause. -/
structure Writer (ω : Type) where
  write : List UInt8 → ω → Except String Unit × ω
  flush : ω → Except String Unit × ω

/-- An output in memory. -/
structure Buffer where
  written : List UInt8 := []
  /-- The number of bytes that it can hold. -/
  capacity : Option Nat := none
  /-- Flushing fails. -/
  failsToFlush : Bool := false
deriving DecidableEq, Repr

namespace Buffer

/-- Writes all bytes, or none if there is no room for them. -/
def write (bytes : List UInt8) (b : Buffer) : Except String Unit × Buffer :=
  if b.capacity.any fun n => n < b.written.length + bytes.length then (.error "sink full", b)
  else (.ok (), { b with written := b.written ++ bytes })

/-- Flushes a buffer, which changes nothing. -/
def flush (b : Buffer) : Except String Unit × Buffer :=
  (if b.failsToFlush then .error "flush failed" else .ok (), b)

/-- Writing to a buffer. -/
def writer : Writer Buffer := ⟨write, flush⟩

end Buffer

/-- An output and the number of bodies written to it (`XmlFragmentCopier`). -/
structure Copier (ω : Type) where
  output : ω
  count : UInt64 := 0

namespace Copier

variable {ω : Type}

/-- The number of bodies written. -/
def fragments (c : Copier ω) : Nat :=
  c.count.toNat

variable (w : Writer ω)

/-- Writes a body without its prolog. -/
def copy (body : List UInt8) (c : Copier ω) : Except String Unit × Copier ω :=
  match w.write (stripProlog body) c.output with
  | (.ok (), output) => (.ok (), ⟨output, c.count + 1⟩)
  | (.error cause, output) => (.error cause, { c with output })

/-- Flushes the output. -/
def flush (c : Copier ω) : Except String Unit × Copier ω :=
  let (answer, output) := w.flush c.output
  (answer, { c with output })

end Copier

end FilterSql.Records
