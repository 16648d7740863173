import NullFlow.Archive.Zstd.Sequences

namespace NullFlow.Archive.Zstd

open Text (Bytes)

def Fault.message : Fault → String
  | .ended => "incomplete frame"
  | .badStart => "Unknown frame descriptor"
  | .unsupported => "Unsupported frame parameter"
  | .wideWindow => "Frame requires too much memory for decoding"
  | .dictionary => "Dictionary mismatch"
  | .noCode => "Dictionary is corrupted"
  | .tooLarge => "Destination buffer is too small"
  | .corrupt => "Data corruption detected"
  | .badChecksum => "Restored data doesn't match checksum"

namespace Checksum

def prime1 : UInt64 := 0x9E3779B185EBCA87
def prime2 : UInt64 := 0xC2B2AE3D27D4EB4F
def prime3 : UInt64 := 0x165667B19E3779F9
def prime4 : UInt64 := 0x85EBCA77C2B2AE63
def prime5 : UInt64 := 0x27D4EB2F165667C5

def rotate (n : UInt64) (k : UInt64) : UInt64 := (n <<< k) ||| (n >>> (64 - k))

def round (sum word : UInt64) : UInt64 := rotate (sum + word * prime2) 31 * prime1

def word (data : Bytes) : UInt64 := (number (data.take 8)).toUInt64

/-- Four sums over every four words. -/
def sums (a b c d : UInt64) : Nat → Bytes → UInt64 × UInt64 × UInt64 × UInt64
  | 0, _ => (a, b, c, d)
  | count + 1, data =>
    sums (round a (word data)) (round b (word (data.drop 8))) (round c (word (data.drop 16)))
      (round d (word (data.drop 24))) count (data.drop 32)

def join (hash sum : UInt64) : UInt64 := (hash ^^^ round 0 sum) * prime1 + prime4

def stripes (data : Bytes) : UInt64 :=
  if data.length < 32 then prime5
  else
    let (a, b, c, d) := sums (prime1 + prime2) prime2 0 (0 - prime1) (data.length / 32) data
    let hash := rotate a 1 + rotate b 7 + rotate c 12 + rotate d 18
    join (join (join (join hash a) b) c) d

def words : Nat → UInt64 → Bytes → UInt64 × Bytes
  | 0, hash, data => (hash, data)
  | count + 1, hash, data =>
    words count (rotate (hash ^^^ round 0 (word data)) 27 * prime1 + prime4) (data.drop 8)

def half (hash : UInt64) (data : Bytes) : UInt64 × Bytes :=
  if data.length < 4 then (hash, data)
  else
    (rotate (hash ^^^ (number (data.take 4)).toUInt64 * prime1) 23 * prime2 + prime3, data.drop 4)

def single (hash : UInt64) (b : UInt8) : UInt64 :=
  rotate (hash ^^^ b.toUInt64 * prime5) 11 * prime1

def mix (hash : UInt64) : UInt64 :=
  let hash := (hash ^^^ (hash >>> 33)) * prime2
  let hash := (hash ^^^ (hash >>> 29)) * prime3
  hash ^^^ (hash >>> 32)

def ofBytes (data : Bytes) : UInt64 :=
  let hash := stripes data + data.length.toUInt64
  let rest := data.drop (data.length / 32 * 32)
  let (hash, rest) := words (rest.length / 8) hash rest
  let (hash, rest) := half hash rest
  mix (rest.foldl single hash)

end Checksum

abbrev Read := EStateM Fault Bytes

def bytes (count : Nat) : Read Bytes := do
  let s ← get
  let taken := s.take count
  if taken.length < count then throw .ended
  set (s.drop count)
  return taken

def littleNumber (width : Nat) : Read Nat := do return number (← bytes width)

/-- What goes on from one block of a frame to the next. -/
structure Progress where
  output : Array UInt8
  recent : Recent
  words : Option WordCode
  codes : Option Codes

def Progress.start : Progress := ⟨#[], (1, 4, 8), none, none⟩

def packedBlock (p : Progress) (data : Bytes) : Except Fault Progress := do
  if data.length < 2 then throw .corrupt
  let (words, literals, data) ← literals p.words data
  let (codes, all) ← sequences p.codes data
  let (recent, output) ← carryOut p.recent p.output literals all
  return { output, recent, words, codes }

/-- One block, of no more than `limit` bytes; whether it is the last one. All of them together have no more
than `total`. -/
def block (limit : Nat) (total : Option Nat) (p : Progress) : Read (Bool × Progress) := do
  let header ← littleNumber 3
  let size := header / 8
  let isLast := decide (header % 2 = 1)
  let q ←
    match header / 2 % 4 with
    | 0 =>
      if limit < size then throw .corrupt
      pure { p with output := p.output ++ (← bytes size).toArray }
    | 1 =>
      let b := (← bytes 1).headD 0
      if limit < size then throw .corrupt
      pure { p with output := p.output ++ Array.replicate size b }
    | 2 =>
      if limit < size then throw .corrupt
      match packedBlock p (← bytes size) with
      | .ok q => pure q
      | .error e => throw e
    | _ => throw .corrupt
  if p.output.size + limit < q.output.size ∨ total.any (· < q.output.size) then throw .tooLarge
  return (isLast, q)

def blocks (limit : Nat) (total : Option Nat) : Nat → Progress → Read (Array UInt8)
  | 0, _ => throw .ended
  | fuel + 1, p => do
    let (isLast, p) ← block limit total p
    if isLast then return p.output else blocks limit total fuel p

structure Header where
  window : Nat
  size : Option Nat
  isChecked : Bool

def widestWindow : Nat := 134217729

def windowBits : Nat := 31

def header : Read Header := do
  let flags ← littleNumber 1
  let isSingle := decide (flags / 32 % 2 = 1)
  let window ←
    if isSingle then pure none
    else
      let b ← littleNumber 1
      let base := Nat.pow 2 (10 + b / 8)
      pure (some (base + base / 8 * (b % 8)))
  let dictionary ← littleNumber ([0, 1, 2, 4].getD (flags % 4) 0)
  let size ←
    match flags / 64 with
    | 0 => if isSingle then some <$> littleNumber 1 else pure none
    | 1 => (fun n => some (n + 256)) <$> littleNumber 2
    | 2 => some <$> littleNumber 4
    | _ => some <$> littleNumber 8
  if flags / 8 % 2 = 1 then throw .unsupported
  let window := window.getD (size.getD 0)
  if !isSingle ∧ windowBits < Nat.log2 window then throw .wideWindow
  if dictionary ≠ 0 then throw .dictionary
  if widestWindow < window then throw .wideWindow
  return ⟨window, size, flags / 4 % 2 = 1⟩

def frame : Read Bytes := do
  let h ← header
  let output ← blocks (min h.window largestBlock) h.size ((← get).length + 1) .start
  if h.size.any (· ≠ output.size) then throw .corrupt
  let content := output.toList
  if h.isChecked then
    if (← littleNumber 4) ≠ (Checksum.ofBytes content).toNat % 0x100000000 then throw .badChecksum
  return content

def frameMark : Bytes := [0x28, 0xB5, 0x2F, 0xFD]

/-- Frames that hold nothing have one of sixteen marks. -/
def skippedMark : Bytes := [0x50, 0x2A, 0x4D, 0x18]

/-- Compares the start of a frame with a mark, as far as there is one. -/
def startsAs (mark : Bytes) (s : Bytes) : Bool := (s.take 4).isPrefixOf mark

def frames : Nat → Read Bytes
  | 0 => throw .ended
  | fuel + 1 => do
    let s ← get
    let content ←
      if startsAs frameMark s then
        discard (bytes 4)
        frame
      else if startsAs skippedMark (s.modifyHead fun b => b / 16 * 16) then
        discard (bytes 4)
        discard (bytes (← littleNumber 4))
        pure []
      else throw .badStart
    if (← get).isEmpty then return content else return content ++ (← frames fuel)

def unpack (packed : Bytes) : Except Fault Bytes :=
  match frames (packed.length + 1) packed with
  | .ok content _ => .ok content
  | .error e _ => .error e

end NullFlow.Archive.Zstd
