import NullFlow.Archive.Record

namespace NullFlow.Archive.Lzma

open Text (Bytes)

/-- An interval that becomes smaller with every choice, and the point in it that the choices lead to. -/
structure Interval where
  range : UInt32
  point : UInt32
  input : Bytes

/-- A byte more of the point. After the end of the data comes as many times one as it takes. -/
def Interval.refine (i : Interval) : Interval :=
  if i.range < 0x1000000 then
    { range := i.range <<< 8
      point := (i.point <<< 8) ||| (i.input.headD 1).toUInt32
      input := i.input.tail }
  else i

def Interval.start? : Bytes → Option Interval
  | _ :: a :: b :: c :: d :: input => some ⟨0xFFFFFFFF, (number [d, c, b, a]).toUInt32, input⟩
  | _ => none

/-- What was learned from the choices before: how likely each is not taken, in parts of 2048, what the last
steps were, and the last four distances. -/
structure Model where
  odds : Array UInt16
  phase : Nat
  recent : Nat × Nat × Nat × Nat

abbrev Choose := StateM (Interval × Model)

def phase : Choose Nat := do return (← get).2.phase

def recent : Choose (Nat × Nat × Nat × Nat) := do return (← get).2.recent

def choose (index : Nat) : Choose Bool :=
  modifyGet fun (i, m) =>
    let i := i.refine
    let odds := m.odds.getD index 1024
    let bound := (i.range >>> 11) * odds.toUInt32
    if i.point < bound then
      (false, { i with range := bound },
        { m with odds := m.odds.setIfInBounds index (odds + ((2048 - odds) >>> 5)) })
    else
      (true, { i with range := i.range - bound, point := i.point - bound },
        { m with odds := m.odds.setIfInBounds index (odds - (odds >>> 5)) })

def toss : Choose Bool :=
  modifyGet fun (i, m) =>
    let i := i.refine
    let half := i.range >>> 1
    let below := (i.point - half) >>> 31
    (below = 0, { i with range := half, point := i.point - (half &&& (below - 1)) }, m)

def branches (base width node : Nat) : Choose Nat :=
  width.foldM (fun _ _ node => return 2 * node + (← choose (base + node)).toNat) node

def tree (base width : Nat) : Choose Nat := do
  return (← branches base width 1) - Nat.pow 2 width

def reversedTree (base : Nat) : Nat → Nat → Choose Nat
  | 0, _ => return 0
  | width + 1, node => do
    let b ← choose (base + node)
    return b.toNat + 2 * (← reversedTree base width (2 * node + b.toNat))

def tosses (width : Nat) : Choose Nat :=
  width.foldM (fun _ _ n => return 2 * n + (← toss).toNat) 0

def matchOdds (phase place : Nat) : Nat := 16 * phase + place

def againOdds (phase : Nat) : Nat := 192 + phase

def otherOdds (distance phase : Nat) : Nat := 204 + 12 * distance + phase

def longOdds (phase place : Nat) : Nat := 240 + 16 * phase + place

def lengthOdds : Nat := 432

def againLengthOdds : Nat := 946

def slotOdds (length : Nat) : Nat := 1460 + 64 * min (length - 2) 3

def middleOdds (slot : Nat) : Nat := 1716 + 32 * (slot - 4)

def alignOdds : Nat := 2036

def literalOdds (context : Nat) : Nat := 2052 + 768 * context

/-- How many bits of the last byte and of the position the odds of a literal depend on, on how many of the
position those of a packet do, and how far back a packet may reach. -/
structure Settings where
  contextBits : Nat
  literalPlaceBits : Nat
  placeBits : Nat
  reach : Nat

def Settings.model (s : Settings) : Model :=
  { odds := Array.replicate (literalOdds (Nat.pow 2 (s.contextBits + s.literalPlaceBits))) 1024
    phase := 0
    recent := (0, 0, 0, 0) }

/-- A byte, or so many bytes again from so far back, where the last byte is at distance zero. -/
inductive Packet where
  | literal (b : UInt8)
  | copy (distance length : Nat)

def back (output : Array UInt8) (distance : Nat) : UInt8 :=
  if distance < output.size then output.getD (output.size - 1 - distance) 0 else 0

/-- A literal after a copy: as long as its bits are those of the byte that the copy would have gone on
with, they have other odds. -/
def matchedLiteral (base : Nat) : Nat → Nat → Nat → Choose Nat
  | 0, _, node => return node
  | width + 1, expected, node => do
    let bit := expected / Nat.pow 2 width % 2
    let b ← choose (base + 256 * (1 + bit) + node)
    if b.toNat = bit then matchedLiteral base width expected (2 * node + bit)
    else branches base width (2 * node + b.toNat)

def literal (s : Settings) (output : Array UInt8) : Choose Packet := do
  let phase ← phase
  let high := (back output 0).toNat / Nat.pow 2 (8 - s.contextBits)
  let low := output.size % Nat.pow 2 s.literalPlaceBits
  let base := literalOdds (high + Nat.pow 2 s.contextBits * low)
  let b ←
    if phase < 7 then tree base 8
    else matchedLiteral base 8 (back output (← recent).1).toNat 1
  modify fun (i, m) =>
    (i, { m with phase := if phase < 4 then 0 else phase - if phase < 10 then 3 else 6 })
  return .literal b.toUInt8

def packetLength (base place : Nat) : Choose Nat := do
  if !(← choose base) then return 2 + (← tree (base + 2 + 8 * place) 3)
  else if !(← choose (base + 1)) then return 10 + (← tree (base + 130 + 8 * place) 3)
  else return 18 + (← tree (base + 258) 8)

def distance (length : Nat) : Choose Nat := do
  let slot ← tree (slotOdds length) 6
  if slot < 4 then return slot
  let width := slot / 2 - 1
  let high := (2 + slot % 2) * Nat.pow 2 width
  if slot < 14 then return high + (← reversedTree (middleOdds slot) width 1)
  else return high + 16 * (← tosses (width - 4)) + (← reversedTree alignOdds 4 1)

def note (recent : Nat × Nat × Nat × Nat) (early late : Nat) : Choose Unit :=
  modify fun (i, m) => (i, { m with recent, phase := if m.phase < 7 then early else late })

def newCopy (place : Nat) : Choose Packet := do
  let (a, b, c, _) ← recent
  let length ← packetLength lengthOdds place
  let d ← distance length
  note (d, a, b, c) 7 10
  return .copy d length

def copyAgain (place : Nat) : Choose Packet := do
  let phase ← phase
  let (a, b, c, d) ← recent
  if !(← choose (otherOdds 0 phase)) then
    if ← choose (longOdds phase place) then again (a, b, c, d)
    else
      note (a, b, c, d) 9 11
      return .copy a 1
  else if !(← choose (otherOdds 1 phase)) then again (b, a, c, d)
  else if !(← choose (otherOdds 2 phase)) then again (c, a, b, d)
  else again (d, a, b, c)
where
  again (recent : Nat × Nat × Nat × Nat) : Choose Packet := do
    let length ← packetLength againLengthOdds place
    note recent 8 11
    return .copy recent.1 length

def packet (s : Settings) (output : Array UInt8) : Choose Packet := do
  let phase ← phase
  let place := output.size % Nat.pow 2 s.placeBits
  if !(← choose (matchOdds phase place)) then literal s output
  else if !(← choose (againOdds phase)) then newCopy place
  else copyAgain place

inductive Fault where
  | ended | properties (size : Nat) | badSettings | farReach | badStart | tooFar | cut
  deriving DecidableEq

def Fault.message : Fault → String
  | .ended => "failed to fill whole buffer"
  | .properties size => s!"unexpected LZMA properties size of {size}"
  | .badSettings => "invalid props byte"
  | .farReach => "dict size too large"
  | .badStart => "range decoder first byte is not zero"
  | .tooFar => "dist overflow"
  | .cut => "end reached but not decoder finished"

/-- Packets until there are `size` bytes of output. Each makes one or more, so the number of those that
are missing will do for `fuel`. No packet may go beyond. -/
def packets (s : Settings) (size : Nat) : Nat → Interval × Model → Array UInt8 →
    Except Fault ((Interval × Model) × Array UInt8)
  | 0, state, output => .ok (state, output)
  | fuel + 1, state, output =>
    if size ≤ output.size then .ok (state, output)
    else
      match (packet s output).run state with
      | (.literal b, state) => packets s size fuel state (output.push b)
      | (.copy distance length, state) =>
        if min output.size s.reach ≤ distance then .error .tooFar
        else if size < output.size + length then .error .cut
        else packets s size fuel state
          (length.fold (fun _ _ output => output.push (back output distance)) output)

def Settings.ofByte? (b reach : Nat) : Option Settings :=
  if 225 ≤ b then none
  else some ⟨b % 9, b / 9 % 5, b / 45, (max 4096 reach + 15) / 16 * 16⟩

def header (packed : Bytes) : Except Fault (Settings × Bytes) := do
  if packed.length < 4 then throw .ended
  let size := number ((packed.drop 2).take 2)
  if size ≠ 5 then throw (.properties size)
  match packed.drop 4 with
  | b :: c :: d :: e :: f :: packed =>
    let reach := number [c, d, e, f]
    match Settings.ofByte? b.toNat reach with
    | none => throw .badSettings
    | some settings =>
      if 0xFFFFFFF0 < reach then throw .farReach
      return (settings, packed)
  | _ => throw .ended

def unpack (size : Nat) (packed : Bytes) : Except Fault Bytes := do
  let (settings, packed) ← header packed
  if packed.headD 0 ≠ 0 then throw .badStart
  match Interval.start? packed with
  | none => throw .ended
  | some i => return (← packets settings size size (i, settings.model) #[]).2.toList

end NullFlow.Archive.Lzma
