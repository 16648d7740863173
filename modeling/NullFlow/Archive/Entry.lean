import NullFlow.Archive.Record

namespace NullFlow.Archive

open Text (Bytes)

structure Entry where
  key : Bytes
  name : String
  comment : String
  flags : Nat
  method : Nat
  checksum : UInt32
  packedSize : Nat
  size : Nat
  start : Nat
  aes : Bool

def codePage : List Char :=
  ("ÇüéâäàåçêëèïîìÄÅÉæÆôöòûùÿÖÜ¢£¥₧ƒáíóúñÑªº¿⌐¬½¼¡«»░▒▓│┤╡╢╖╕╣║╗╝╜╛┐└┴┬├─┼╞╟╚╔╩╦╠═╬╧╨╤╥╙╘╒╓╫╪┘┌█▄▌▐▀" ++
    "αßΓπΣσµτΦΘΩδ∞φε∩≡±≥≤⌠⌡÷≈°∙·√ⁿ²■\u00a0").toList

def byPage (bytes : Bytes) : String :=
  String.ofList (bytes.map fun b =>
    if b < 0x80 then Char.ofNat b.toNat else codePage.getD (b.toNat - 0x80) ' ')

def nameText (flags : Nat) (bytes : Bytes) : String :=
  if hasFlag flags utf8Flag then Text.decodeLossy bytes else byPage bytes

def takeBytes (width : Nat) (short : Error) (s : Bytes) : Except Error (Bytes × Bytes) :=
  if width ≤ s.length then .ok (s.take width, s.drop width) else .error short

def takeNumber (width : Nat) (s : Bytes) : Except Error (Nat × Bytes) := do
  let (bytes, rest) ← takeBytes width .bufferEnded s
  return (number bytes, rest)

/-- The largest number of four bytes: the true one is in a field of its own. -/
def overflowed : Nat := 0xFFFFFFFF

def wideNumber (all : Bool) (narrow : Nat) (used : Nat) (s : Bytes) :
    Except Error (Nat × Nat × Bytes) := do
  if all || narrow = overflowed then
    let (n, s) ← takeNumber 8 s
    return (n, used + 8, s)
  else return (narrow, used, s)

def wideField (length : Nat) (e : Entry) (s : Bytes) : Except Error (Entry × Bytes) := do
  let all := decide (24 ≤ length)
  let (size, used, s) ← wideNumber all e.size 0 s
  let (packedSize, used, s) ← wideNumber all e.packedSize used s
  let (start, used, s) ← wideNumber all e.start used s
  if length < used then throw .wideLength
  let (_, s) ← takeBytes (length - used) .wideContent s
  return ({ e with size, packedSize, start }, s)

/-- A name in UTF-8 that goes with the one in the entry if the checksum of that is right. -/
def unicodeField (length : Nat) (plain : Bytes) (s : Bytes) : Except Error (Bytes × Bytes) := do
  let (_, s) ← takeBytes 1 .bufferEnded s
  let (given, s) ← takeNumber 4 s
  if length < 5 then throw .nameTooShort
  let (content, s) ← takeBytes (length - 5) .bufferEnded s
  let actual := Crc32.checksum plain
  if given.toUInt32 ≠ actual then throw (.nameChecksum given.toUInt32 actual)
  return (content, s)

def utf8 (bytes : Bytes) : Except Error String :=
  match Text.decode? bytes with
  | some text => .ok text
  | none => .error .notUtf8

def bitCount (n : Nat) : Nat :=
  ((List.range 8).filter fun k => n / Nat.pow 2 k % 2 = 1).length

def timeField (length : Nat) (s : Bytes) : Except Error Bytes := do
  let (flags, s) ← takeBytes 1 .timeEnded s
  let flags := number flags
  if length ≠ 5 ∧ length ≠ 1 + 4 * bitCount flags then throw .timeFlags
  let present := if length = 5 then 1 else bitCount (flags % 8)
  return (← takeBytes (4 * present) .bufferEnded s).2

def fileTimeField (length : Nat) (s : Bytes) : Except Error Bytes := do
  if length ≠ 32 then throw .fileTimeLength
  let (_, s) ← takeNumber 4 s
  let (tag, s) ← takeNumber 2 s
  if tag ≠ 1 then throw .fileTimeTag
  let (size, s) ← takeNumber 2 s
  if size ≠ 24 then throw .fileTimeSize
  return (← takeBytes 24 .bufferEnded s).2

def aesField (length : Nat) (e : Entry) (s : Bytes) : Except Error (Entry × Bytes) := do
  if length ≠ 7 then throw .aesLength
  let (version, s) ← takeNumber 2 s
  let (vendor, s) ← takeNumber 2 s
  let (strength, s) ← takeNumber 1 s
  let (method, s) ← takeNumber 2 s
  if vendor ≠ 0x4541 then throw .aesVendor
  if version ≠ 1 ∧ version ≠ 2 then throw .aesVersion
  if strength = 0 ∨ 3 < strength then throw .aesStrength
  return ({ e with method, aes := true }, s)

def extend (kind length : Nat) (e : Entry) (s : Bytes) : Except Error (Entry × Bytes) := do
  if kind = 0x0001 then wideField length e s
  else if kind = 0x000a then return (e, ← fileTimeField length s)
  else if kind = 0x5455 then return (e, ← timeField length s)
  else if kind = 0x6375 then
    let (content, s) ← unicodeField length (Text.encode e.comment) s
    return ({ e with comment := ← utf8 content }, s)
  else if kind = 0x7075 then
    let (content, s) ← unicodeField length e.key s
    return ({ e with key := content, name := ← utf8 content }, s)
  else if kind = 0x9901 then aesField length e s
  else return (e, (← takeBytes length .extraContent s).2)

/-- All fields. Each takes four bytes or more, so as many steps as there are bytes will do; a single byte
at the end is none. -/
def extendAll : Nat → Entry → Bytes → Except Error Entry
  | 0, e, _ => .ok e
  | _ + 1, e, [] => .ok e
  | _ + 1, e, [_] => .ok e
  | fuel + 1, e, s => do
    let (kind, s) ← takeNumber 2 s
    let (length, s) ← takeBytes 2 .extraHeader s
    let (e, s) ← extend kind (number length) e s
    extendAll fuel e s

def aesMethod : Nat := 99

def word : Nat := 0x10000000000000000

def varying (s : Bytes) (position width : Nat) : Except Error Bytes :=
  match slice? s position width with
  | some bytes => .ok bytes
  | none => .error .longField

def fixed (record : Record) (s : Bytes) (position : Nat) : Except Error Bytes := do
  match slice? s position record.size with
  | none => throw (.ended record)
  | some bytes =>
    if number (bytes.take 4) ≠ record.mark then throw (.badMark record)
    return bytes

def field (bytes : Bytes) (offset width : Nat) : Nat :=
  number ((bytes.drop offset).take width)

def Entry.read (s : Bytes) (shift position : Nat) : Except Error (Entry × Nat) := do
  let bytes ← fixed .entry s position
  let get := field bytes
  let afterName := position + Record.entry.size + get 28 2
  let afterExtra := afterName + get 30 2
  let key ← varying s (position + Record.entry.size) (get 28 2)
  let extra ← varying s afterName (get 30 2)
  let comment ← varying s afterExtra (get 32 2)
  let e ← extendAll extra.length
    { key, name := nameText (get 8 2) key, comment := nameText (get 8 2) comment
      flags := get 8 2, method := get 10 2, checksum := (get 16 4).toUInt32
      packedSize := get 20 4, size := get 24 4, start := get 42 4, aes := false } extra
  if e.method = aesMethod ∧ !e.aes then throw .aesMissing
  if word ≤ e.start + shift then throw .memberTooFar
  return ({ e with start := e.start + shift }, afterExtra + get 32 2)

end NullFlow.Archive
