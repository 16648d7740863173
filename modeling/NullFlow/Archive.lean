import NullFlow.Archive.Bzip2
import NullFlow.Archive.Deflate
import NullFlow.Archive.Directory
import NullFlow.Archive.Xz
import NullFlow.Archive.Zstd

namespace NullFlow

open Text (Bytes)

structure Archive where
  bytes : Bytes
  entries : List Archive.Entry

namespace Archive

inductive Packing where
  | stored
  | deflated (kind : Deflate.Kind)
  | bzip2
  | lzma
  | xz
  | zstd

def Packing.ofNumber? (n : Nat) : Option Packing :=
  if n = 0 then some .stored
  else if n = 8 then some (.deflated .plain)
  else if n = 9 then some (.deflated .wide)
  else if n = 12 then some .bzip2
  else if n = 14 then some .lzma
  else if n = 93 then some .zstd
  else if n = 95 then some .xz
  else none

structure Member where
  packing : Packing
  packed : Bytes
  size : Nat
  checksum : UInt32

inductive ContentError where
  | badChecksum
  | deflate
  | wideDeflate
  | bzip2 (fault : Fault)
  | lzma (fault : Lzma.Fault)
  | xz (fault : Xz.Fault)
  | zstd (fault : Zstd.Fault)
  deriving DecidableEq

def ContentError.message : ContentError → String
  | .badChecksum => "Invalid checksum"
  | .deflate => "corrupt deflate stream"
  | .wideDeflate => "invalid deflate64"
  | .bzip2 .corrupt => "bzip2: invalid data"
  | .bzip2 .badStart => "bzip2: bz2 header missing"
  | .bzip2 .ended => "decompression not finished but EOF reached"
  | .lzma fault => fault.message
  | .xz fault => fault.message
  | .zstd fault => fault.message

/-- The last entry of several with one key takes the place of the first. -/
def insertEntry (e : Entry) : List Entry → List Entry
  | [] => [e]
  | f :: rest => if f.key = e.key then e :: rest else f :: insertEntry e rest

def read (bytes : Bytes) : Except Error Archive := do
  return ⟨bytes, (← readDirectory bytes).foldl (fun seen e => insertEntry e seen) []⟩

def member (a : Archive) (e : Entry) : Except Error Member := do
  if hasFlag e.flags encryptedFlag then throw .passwordRequired
  let record ← fixed .member a.bytes e.start
  let start := e.start + Record.member.size + field record 26 2 + field record 28 2
  match Packing.ofNumber? e.method with
  | none => throw (.method e.method)
  | some packing =>
    if e.aes then throw .badPassword
    return ⟨packing, (a.bytes.drop start).take e.packedSize, e.size, e.checksum⟩

/-- The member of this name. Names are compared as bytes, so one that is shown in another way than it is
written is not found. -/
def find (a : Archive) (name : String) : Except Error Member :=
  match a.entries.find? (·.key = Text.encode name) with
  | some e => a.member e
  | none => .error .missing

/-- What is in a member, before its checksum is looked at. Deflated data that end too early are not
complained about here. -/
def Member.unpack (m : Member) : Except ContentError Bytes :=
  match m.packing with
  | .stored => .ok m.packed
  | .deflated kind =>
    match Unpack.run (Deflate.unpack kind) m.packed with
    | (_, some .corrupt) => .error (if kind = .plain then .deflate else .wideDeflate)
    | (content, _) => .ok content
  | .bzip2 =>
    match Unpack.run Bzip2.unpack m.packed with
    | (_, some fault) => .error (.bzip2 fault)
    | (content, none) => .ok content
  | .lzma => (Lzma.unpack m.size m.packed).mapError .lzma
  | .xz => (Xz.unpack m.packed).mapError .xz
  | .zstd => (Zstd.unpack m.packed).mapError .zstd

def Member.content (m : Member) : Except ContentError Bytes := do
  let content ← m.unpack
  if Crc32.checksum content ≠ m.checksum then throw .badChecksum
  return content

/-- What a reader shows of an archive: in turn the name of each member, or what keeps the member from being
read, and what the member of a name holds. Complaints are texts. -/
structure View where
  members : List (Except String String)
  find : String → Except String (Except String Bytes)

abbrev Reader := Bytes → Except String View

def view (a : Archive) : View where
  members := a.entries.map fun e => ((a.member e).map fun _ => e.name).mapError Error.message
  find name := ((a.find name).map fun m => m.content.mapError ContentError.message).mapError
    Error.message

def reader : Reader := fun bytes => ((read bytes).map view).mapError Error.message

end Archive

end NullFlow
