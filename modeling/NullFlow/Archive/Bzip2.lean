import NullFlow.Archive.Unpacking

namespace NullFlow.Archive.Bzip2

open Unpack (highNumber)

def bit : Unpack Bool := Unpack.bit Unpack.highBits

def check (condition : Bool) : Unpack Unit :=
  if condition then pure () else throw .corrupt

def crcStep (crc : UInt32) : UInt32 :=
  if crc &&& 0x80000000 ≠ 0 then (crc <<< 1) ^^^ 0x04C11DB7 else crc <<< 1

def crcByte (crc : UInt32) (b : UInt8) : UInt32 :=
  let mixed := crc ^^^ (b.toUInt32 <<< 24)
  crcStep (crcStep (crcStep (crcStep (crcStep (crcStep (crcStep (crcStep mixed)))))))

def checksum (data : List UInt8) : UInt32 :=
  data.foldl crcByte 0xFFFFFFFF ^^^ 0xFFFFFFFF

def alphabet : Unpack (List UInt8) := do
  let groups ← (List.range 16).mapM fun g => return (g, ← bit)
  let flags ← (groups.filter (·.2)).mapM fun (g, _) =>
    (List.range 16).mapM fun k => return ((16 * g + k).toUInt8, ← bit)
  return (flags.flatten.filter (·.2)).map (·.1)

def moveToFront (place : Nat) (items : List α) : Option (α × List α) :=
  match items[place]? with
  | some a => some (a, a :: items.eraseIdx place)
  | none => none

def unary : Nat → Unpack Nat
  | 0 => throw .corrupt
  | limit + 1 => do
    if ← bit then return 1 + (← unary limit) else return 0

def selectors (codes : Nat) : Nat → List Nat → Unpack (List Nat)
  | 0, _ => return []
  | count + 1, order => do
    match moveToFront (← unary codes) order with
    | none => throw .corrupt
    | some (code, order) => return code :: (← selectors codes count order)

def lengthFrom : Nat → Nat → Unpack Nat
  | 0, _ => throw .ended
  | bits + 1, length => do
    check (1 ≤ length && length ≤ 20)
    if !(← bit) then return length
    if ← bit then lengthFrom bits (length - 1) else lengthFrom bits (length + 1)

def codeLengths (bits : Nat) : Nat → Nat → Unpack (List Nat)
  | 0, _ => return []
  | count + 1, last => do
    let length ← lengthFrom bits last
    return length :: (← codeLengths bits count length)

/-- Reading a block: the codes to come, how many symbols the first of them still holds, the bytes in the
order of their last use, and a run whose length is not known yet. -/
structure State where
  codes : List PrefixCode
  left : Nat
  order : List UInt8
  run : Nat
  weight : Nat
  block : Array UInt8

def maxWeight : Nat := 0x200000

def State.flush (limit : Nat) (s : State) : Unpack State := do
  if s.run = 0 then return { s with weight := 1 }
  check (s.block.size + s.run ≤ limit)
  let b := s.order.headD 0
  return { s with run := 0, weight := 1, block := s.block ++ Array.replicate s.run b }

/-- The symbols up to the end of the block. Each takes a bit or more. -/
def symbols (limit last : Nat) : Nat → State → Unpack (Array UInt8)
  | 0, _ => throw .ended
  | fuel + 1, s => do
    match s.codes with
    | [] => throw .corrupt
    | code :: codes =>
      let symbol ← code.read Unpack.highBits
      let s := if s.left = 1 then { s with codes, left := 50 } else { s with left := s.left - 1 }
      if symbol < 2 then
        check (s.weight < maxWeight)
        symbols limit last fuel
          { s with run := s.run + (symbol + 1) * s.weight, weight := 2 * s.weight }
      else
        let s ← s.flush limit
        if symbol = last then return s.block
        check (s.block.size < limit)
        match moveToFront (symbol - 1) s.order with
        | none => throw .corrupt
        | some (b, order) => symbols limit last fuel { s with order, block := s.block.push b }

/-- For each place of the sorted block, the place of the byte that follows. -/
def followers (block : Array UInt8) : Array Nat :=
  let counts := block.foldl (fun counts b => counts.modify b.toNat (· + 1)) (Array.replicate 256 0)
  let (starts, _) := counts.foldl (fun (starts, sum) n => (starts.push sum, sum + n)) (#[], 0)
  let (next, _, _) := block.foldl (fun (next, starts, k) b =>
    let place := starts.getD b.toNat 0
    (next.setIfInBounds place k, starts.setIfInBounds b.toNat (place + 1), k + 1))
    (Array.replicate block.size 0, starts, 0)
  next

def trail (block : Array UInt8) (next : Array Nat) : Nat → Nat → List UInt8
  | 0, _ => []
  | count + 1, place => block.getD place 0 :: trail block next count (next.getD place 0)

def unsort (block : Array UInt8) (start : Nat) : List UInt8 :=
  let next := followers block
  trail block next block.size (next.getD start 0)

/-- After four equal bytes comes the number of those that follow. -/
def unfold : Option UInt8 → Nat → List UInt8 → List UInt8
  | _, _, [] => []
  | last, seen, b :: rest =>
    match last with
    | some a =>
      if seen = 4 then List.replicate b.toNat a ++ unfold none 0 rest
      else if a = b then b :: unfold (some b) (seen + 1) rest
      else b :: unfold (some b) 1 rest
    | none => b :: unfold (some b) 1 rest

def block (limit bits : Nat) : Unpack UInt32 := do
  let expected := (← highNumber 32).toUInt32
  check (!(← bit))
  let start ← highNumber 24
  check (start ≤ 10 + limit)
  let bytes ← alphabet
  check (!bytes.isEmpty)
  let count ← highNumber 3
  check (2 ≤ count && count ≤ 6)
  let groups ← highNumber 15
  check (1 ≤ groups)
  let chosen ← selectors count groups (List.range count)
  let codes ← (List.range count).mapM fun _ => do
    return PrefixCode.ofLengths (← codeLengths bits (bytes.length + 2) (← highNumber 5))
  let sorted ← symbols limit (bytes.length + 1) bits
    ⟨chosen.filterMap (codes[·]?), 50, bytes, 0, 1, #[]⟩
  check (start < sorted.size)
  let content := unfold none 0 (unsort sorted start)
  check (checksum content = expected)
  content.forM Unpack.emit
  return expected

def rotate (crc : UInt32) : UInt32 := (crc <<< 1) ||| (crc >>> 31)

/-- A mark is compared byte by byte, so that data that end too early are told from others. -/
def mark (bytes : List UInt8) : Unpack Unit :=
  bytes.forM fun b => do check ((← highNumber 8) = b.toNat)

/-- Blocks up to the end, which has the checksum of their checksums. -/
def blocks (limit bits : Nat) : Nat → UInt32 → Unpack Unit
  | 0, _ => throw .ended
  | fuel + 1, crc => do
    match ← highNumber 8 with
    | 0x31 =>
      mark [0x41, 0x59, 0x26, 0x53, 0x59]
      let expected ← block limit bits
      blocks limit bits fuel (rotate crc ^^^ expected)
    | 0x17 =>
      mark [0x72, 0x45, 0x38, 0x50, 0x90]
      check ((← highNumber 32).toUInt32 = crc)
    | _ => throw .corrupt

def level : Unpack Nat := do
  for b in [0x42, 0x5A, 0x68] do
    if (← highNumber 8) ≠ b then throw .badStart
  let digit ← highNumber 8
  if digit < 0x31 ∨ 0x39 < digit then throw .badStart
  return digit - 0x30

def unpack : Unpack Unit := do
  let bits := 8 * (← get).input.length + 1
  let level ← level
  blocks (100000 * level) bits bits 0

end NullFlow.Archive.Bzip2
