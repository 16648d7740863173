import NullFlow.Archive.Lzma

namespace NullFlow.Archive.Xz

open Text (Bytes)

inductive Fault where
  | ended | badStart | badFlags | unknownCheck | flagsChecksum
  | headerChecksum | headerFlags | longNumber | filter | blockPadding | contentChecksum
  | indexPadding | indexCount | indexChecksum | footerChecksum | badFooter
  | chunk (number : Nat) | shortChunk | chunkStart | unfinished | tooFar
  deriving DecidableEq

def Fault.message : Fault → String
  | .ended => "failed to fill whole buffer"
  | .badStart => "invalid XZ magic bytes"
  | .badFlags => "invalid XZ stream flags"
  | .unknownCheck => "unsupported XZ check type"
  | .flagsChecksum => "XZ stream header CRC32 mismatch"
  | .headerChecksum => "XZ block header CRC32 mismatch"
  | .headerFlags => "reserved bits set in XZ block flags"
  | .longNumber => "XZ multibyte integer too large"
  | .filter => "unsupported XZ filter"
  | .blockPadding => "invalid XZ block padding"
  | .contentChecksum => "invalid block checksum"
  | .indexPadding => "invalid XZ index padding"
  | .indexCount => "number of blocks in index doesn't match number of blocks in stream"
  | .indexChecksum => "XZ index CRC32 mismatch"
  | .footerChecksum => "XZ stream footer CRC32 mismatch"
  | .badFooter => "invalid XZ footer magic bytes"
  | .chunk number => s!"Corrupted input data (LZMA2:{number})"
  | .shortChunk => "buffer len must >= 5"
  | .chunkStart => "range decoder first byte is not zero"
  | .unfinished => "rc not finished or lz has pending"
  | .tooFar => "dist overflow"

abbrev Read := EStateM Fault Bytes

def check (condition : Bool) (fault : Fault) : Read Unit :=
  if condition then pure () else throw fault

def bytes (count : Nat) : Read Bytes := do
  let s ← get
  let taken := s.take count
  check (taken.length = count) .ended
  set (s.drop count)
  return taken

def littleNumber (width : Nat) : Read Nat := do return number (← bytes width)

def bigNumber (width : Nat) : Read Nat := do return number (← bytes width).reverse

def groups : Nat → Read Nat
  | 0 => throw .longNumber
  | count + 1 => do
    let b ← littleNumber 1
    if b < 128 then return b else return b - 128 + 128 * (← groups count)

def varying : Read Nat := groups 9

/-- What goes on from one chunk to the next: the content up to the last place behind which no packet may
reach, the content since then, and the settings and the model if there are any. -/
structure Progress where
  done : List (Array UInt8)
  output : Array UInt8
  coding : Option (Lzma.Settings × Lzma.Model)

def Progress.start : Progress := ⟨[], #[], none⟩

def Progress.forget (p : Progress) : Progress := ⟨p.output :: p.done, #[], none⟩

def Progress.content (p : Progress) : Bytes :=
  (p.output :: p.done).reverse.flatMap (·.toList)

def settings (reach : Nat) : Read Lzma.Settings := do
  match Lzma.Settings.ofByte? (← littleNumber 1) reach with
  | none => throw (.chunk 3)
  | some s =>
    check (s.contextBits + s.literalPlaceBits ≤ 4) (.chunk 4)
    return s

def packedChunk (s : Lzma.Settings) (m : Lzma.Model) (size packedSize : Nat) (output : Array UInt8) :
    Read (Lzma.Model × Array UInt8) := do
  check (5 ≤ packedSize) .shortChunk
  check ((← get).headD 0 = 0) .chunkStart
  match Lzma.Interval.start? (← bytes packedSize) with
  | none => throw .ended
  | some i =>
    match Lzma.packets s (output.size + size) size (i, m) output with
    | .error .cut => throw .unfinished
    | .error _ => throw .tooFar
    | .ok ((i, m), output) =>
      let i := i.refine
      check (i.point = 0 ∧ i.input.isEmpty) .unfinished
      return (m, output)

/-- Chunks up to the end of a block. Each takes a byte or more. The number of a chunk says whether it is
packed, and how much is forgotten before it. -/
def chunks (reach : Nat) : Nat → Bool → Progress → Read Progress
  | 0, _, _ => throw .ended
  | fuel + 1, isFirst, p => do
    let kind ← littleNumber 1
    if kind = 0 then return p
    let forgets : Bool := decide (0xE0 ≤ kind ∨ kind = 1)
    check (forgets || !isFirst) (.chunk 0)
    let p := if forgets then p.forget else p
    if 0x80 ≤ kind then
      let size := kind % 32 * 65536 + (← bigNumber 2) + 1
      let packedSize := (← bigNumber 2) + 1
      let (s, m) ←
        if 0xC0 ≤ kind then
          let s ← settings reach
          pure (s, s.model)
        else
          match p.coding with
          | none => throw (.chunk 1)
          | some (s, m) => pure (s, if 0xA0 ≤ kind then s.model else m)
      let (m, output) ← packedChunk s m size packedSize p.output
      chunks reach fuel false ⟨p.done, output, some (s, m)⟩
    else
      check (kind ≤ 2) (.chunk 2)
      let content ← bytes ((← bigNumber 2) + 1)
      chunks reach fuel false { p with output := p.output ++ content.toArray }

def crcStep (crc : UInt64) : UInt64 :=
  if crc &&& 1 = 1 then (crc >>> 1) ^^^ 0xC96C5795D7870F42 else crc >>> 1

def crcByte (crc : UInt64) (b : UInt8) : UInt64 :=
  let mixed := crc ^^^ b.toUInt64
  crcStep (crcStep (crcStep (crcStep (crcStep (crcStep (crcStep (crcStep mixed)))))))

def longChecksum (data : Bytes) : UInt64 :=
  data.foldl crcByte 0xFFFFFFFFFFFFFFFF ^^^ 0xFFFFFFFFFFFFFFFF

inductive Check where
  | nothing | short | long | digest

def Check.ofNumber : Nat → Read Check
  | 0 => return .nothing
  | 1 => return .short
  | 4 => return .long
  | 10 => return .digest
  | _ => throw .unknownCheck

/-- Compares a checksum with the content. A digest is not looked at. -/
def Check.verify (content : Bytes) : Check → Read Unit
  | .nothing => pure ()
  | .short => do check ((← littleNumber 4).toUInt32 = Crc32.checksum content) .contentChecksum
  | .long => do check ((← littleNumber 8).toUInt64 = longChecksum content) .contentChecksum
  | .digest => discard (bytes 32)

def checksummed (fault : Fault) (r : Read α) : Read α := do
  let before ← get
  let a ← r
  let read := before.take (before.length - (← get).length)
  check ((← littleNumber 4).toUInt32 = Crc32.checksum read) fault
  return a

def reachOf (n : Nat) : Nat :=
  if n = 40 then 0xFFFFFFFF else (2 + n % 2) * Nat.pow 2 (n / 2 + 11)

def blockHeader (size : Nat) : Read Nat := do
  let content ← checksummed .headerChecksum do bytes (4 * size)
  match content.drop 1 with
  | [] => throw .ended
  | flags :: rest =>
    match fields flags.toNat rest with
    | .ok reach _ => return reach
    | .error e _ => throw e
where
  fields (flags : Nat) : Read Nat := do
    check (flags / 4 % 16 = 0) .headerFlags
    check (flags % 4 = 0) .filter
    if flags / 64 % 2 = 1 then discard varying
    if 128 ≤ flags then discard varying
    check ((← varying) = 0x21) .filter
    check ((← varying) = 1) .filter
    let n ← littleNumber 1
    check (n ≤ 40) .filter
    return reachOf n

def padding (count : Nat) (fault : Fault) : Read Unit := do
  check ((← bytes ((4 - count % 4) % 4)).all (· = 0)) fault

def block (kind : Check) (size : Nat) : Read Bytes := do
  let reach ← blockHeader size
  let before := (← get).length
  let p ← chunks reach (before + 1) true .start
  padding (before - (← get).length) .blockPadding
  kind.verify p.content
  return p.content

def index (blocks : Nat) : Read Unit := do
  let before := (← get).length
  checksummed .indexChecksum do
    discard (bytes 1)
    check ((← varying) = blocks) .indexCount
    blocks.forM fun _ _ => do discard varying; discard varying
    padding (before - (← get).length) .indexPadding

def footer : Read Unit := do
  let expected ← littleNumber 4
  let content ← bytes 6
  check (expected.toUInt32 = Crc32.checksum content) .footerChecksum
  check ((← bytes 2) = [0x59, 0x5A]) .badFooter

def blocks (kind : Check) : Nat → List Bytes → Read Bytes
  | 0, _ => throw .ended
  | fuel + 1, reversed => do
    match ← get with
    | [] => throw .ended
    | 0 :: _ =>
      index reversed.length
      footer
      return reversed.reverse.flatten
    | size :: _ =>
      let content ← block kind size.toNat
      blocks kind fuel (content :: reversed)

def start : Read Check := do
  check ((← bytes 6) = [0xFD, 0x37, 0x7A, 0x58, 0x5A, 0]) .badStart
  checksummed .flagsChecksum do
    check ((← bytes 1) = [0]) .badFlags
    Check.ofNumber (← littleNumber 1)

def stream : Read Bytes := do
  let kind ← start
  blocks kind ((← get).length + 1) []

def unpack (packed : Bytes) : Except Fault Bytes :=
  match stream packed with
  | .ok content _ => .ok content
  | .error e _ => .error e

end NullFlow.Archive.Xz
