import FilterSql.Text.Hex
import FilterSql.Text.Utf8

/-!
# Addresses of databases

The bundled database is opened at a path, or at a URI that also says how: `file:` is followed by a
path, and after a question mark by options. In a URI `%` and two hexadecimal digits stand for a
byte, and a number sign ends it.

* `Address.parse`: the path and the options of an address.
* `Address.manner`: how the options want the database to be opened.
-/

namespace FilterSql.Embedded

/-- Why a database cannot be opened. -/
inductive OpenFault where
  | nulByte (position : Nat)
  | unknownAuthority (authority : String)
  /-- An option that says in which mode something is used has a value that names none. -/
  | unknownMode (use mode : String)
  /-- An access mode allows more than another option did. -/
  | refusedMode (mode : String)
  /-- No such way to use the file system. -/
  | unknownSystem (name : String)
  | unopenable (path : String)
  | unreadable
deriving DecidableEq, Repr

/-- The text of a fault. -/
def OpenFault.message : OpenFault → String
  | nulByte position => s!"nul byte found in provided data at position: {position}"
  | unknownAuthority authority => s!"invalid uri authority: {authority}"
  | unknownMode use mode => s!"no such {use} mode: {mode}"
  | refusedMode mode => s!"access mode not allowed: {mode}"
  | unknownSystem name => s!"no such vfs: {name}"
  | unopenable path => s!"unable to open database file: {path}"
  | unreadable => "disk I/O error"

/-! ## Symbols of a URI -/

/-- A byte of a URI, written as itself or by its number. Only bytes that are written as themselves
separate parts. -/
inductive Symbol where
  | plain (byte : UInt8)
  | coded (byte : UInt8)
deriving DecidableEq, Repr

/-- The byte of a symbol. -/
def Symbol.byte : Symbol → UInt8
  | plain b | coded b => b

/-- The value of a byte that is a hexadecimal digit. -/
def hexValue? (b : UInt8) : Option Nat :=
  Text.Hex.value? (Char.ofNat b.toNat)

/-- The symbols up to the number sign. A percent sign without two digits stands for itself. -/
def symbols : List UInt8 → List Symbol
  | [] => []
  | [b] => if b = 0x23 then [] else [.plain b]
  | [b, c] => if b = 0x23 then [] else .plain b :: symbols [c]
  | b :: c :: d :: rest =>
    if b = 0x23 then []
    else
      match b == 0x25, hexValue? c, hexValue? d with
      | true, some high, some low => .coded (UInt8.ofNat (high * 16 + low)) :: symbols rest
      | _, _, _ => .plain b :: symbols (c :: d :: rest)

/-- The bytes of symbols up to a coded zero. -/
def bytesOf (s : List Symbol) : List UInt8 :=
  (s.takeWhile (· != .coded 0)).map Symbol.byte

/-- The symbols before and after the first plain `b`. -/
def cut (b : UInt8) (s : List Symbol) : List Symbol × List Symbol :=
  (s.takeWhile (· != .plain b), (s.dropWhile (· != .plain b)).drop 1)

/-! ## Addresses -/

/-- A path and options. -/
structure Address where
  path : List UInt8
  options : List (String × String) := []
deriving DecidableEq, Repr

/-- The option of a part between ampersands; an option without a name counts for nothing. -/
def option? (s : List Symbol) : Option (String × String) :=
  let (name, value) := cut 0x3D s
  if (bytesOf name).isEmpty then none
  else some (Text.Utf8.decode (bytesOf name), Text.Utf8.decode (bytesOf value))

namespace Address

/-- The start of a URI: `file:`. -/
def scheme : List UInt8 :=
  Text.Utf8.encode "file:"

/-- The part of a URI after the authority, which two slashes announce and which may name this
machine only. -/
def dropAuthority : List UInt8 → Except OpenFault (List UInt8)
  | 0x2F :: 0x2F :: rest =>
    let authority := Text.Utf8.decode (rest.takeWhile (· != 0x2F))
    if authority = "" || authority = "localhost" then .ok (rest.dropWhile (· != 0x2F))
    else .error (.unknownAuthority authority)
  | rest => .ok rest

/-- The address of a text without NUL. -/
def parse (text : List UInt8) : Except OpenFault Address :=
  if scheme.isPrefixOf text then do
    let (path, query) := cut 0x3F (symbols (← dropAuthority (text.drop scheme.length)))
    pure ⟨bytesOf path, (query.splitOnP (· == .plain 0x26)).filterMap option?⟩
  else .ok { path := text }

end Address

/-! ## Options -/

/-- What may be done with a database. -/
inductive Access where
  | read
  | write
  /-- Writing, and making the file. -/
  | create
  /-- Anything, as there is no file. -/
  | memory
deriving DecidableEq, Repr

namespace Access

/-- The access modes by name. -/
def ofName? : String → Option Access
  | "ro" => some read
  | "rw" => some write
  | "rwc" => some create
  | "memory" => some memory
  | _ => none

/-- Whether a mode may be narrowed to another. There is nothing to refuse without a file. -/
def allows : Access → Access → Bool
  | _, memory | memory, _ | create, _ | _, read => true
  | write, write => true
  | _, _ => false

end Access

/-- How a database is opened. -/
structure Manner where
  access : Access := .create
  /-- The way to use the file system. -/
  system : String := "unix"
deriving DecidableEq, Repr

namespace Manner

/-- The ways to use the file system that there are; the last one keeps files in memory. -/
def systems : List String :=
  ["unix", "unix-none", "unix-dotfile", "unix-excl", "memdb"]

/-- Heeds an option. Unknown options are passed over. -/
def heed (m : Manner) : String × String → Except OpenFault Manner
  | ("vfs", name) => .ok { m with system := name }
  | ("cache", mode) =>
    if mode = "shared" || mode = "private" then .ok m else .error (.unknownMode "cache" mode)
  | ("mode", mode) =>
    match Access.ofName? mode with
    | none => .error (.unknownMode "access" mode)
    | some access =>
      if m.access.allows access then .ok { m with access } else .error (.refusedMode mode)
  | _ => .ok m

end Manner

/-- How the options of an address want it to be opened. -/
def Address.manner (a : Address) : Except OpenFault Manner := do
  let m ← a.options.foldlM Manner.heed {}
  if m.system ∈ Manner.systems then pure m else throw (.unknownSystem m.system)

end FilterSql.Embedded
