import NullFlow.Archive.Unpacking

namespace NullFlow.Archive.Zstd

open Text (Bytes)

inductive Fault where
  | ended | badStart | unsupported | wideWindow | dictionary | noCode | tooLarge | corrupt
  | badChecksum
  deriving DecidableEq

abbrev Bits := EStateM Fault (List Bool)

namespace Bits

def bit : Bits Bool := do
  match ← get with
  | [] => throw .corrupt
  | b :: bits =>
    set bits
    return b

def low : Nat → Bits Nat
  | 0 => return 0
  | width + 1 => do
    let b ← bit
    return b.toNat + 2 * (← low width)

def high (width : Nat) : Bits Nat :=
  width.foldM (fun _ _ n => return 2 * n + (← bit).toNat) 0

def all (r : Bits α) (bits : List Bool) : Except Fault α :=
  match r bits with
  | .ok a [] => .ok a
  | .ok _ _ => .error .corrupt
  | .error e _ => .error e

end Bits

/-- The bits of data that are read from their end on, where the highest bit that is set marks it. -/
def backward (data : Bytes) : Except Fault (List Bool) :=
  match (data.reverse.head?.elim [] Unpack.highBits).dropWhile (!·) with
  | [] => .error .corrupt
  | _ :: bits => .ok (bits ++ (data.reverse.drop 1).flatMap Unpack.highBits)

def forward (r : Bits α) (data : Bytes) : Except Fault (α × Bytes) :=
  let bits := data.flatMap Unpack.lowBits
  match r bits with
  | .ok a rest => .ok (a, data.drop ((bits.length - rest.length + 7) / 8))
  | .error e _ => .error e

/-- How much of the states a symbol has. A symbol may have one although it would have less. -/
inductive Share where
  | part (count : Nat)
  | least

def Share.count : Share → Nat
  | .part count => count
  | .least => 1

/-- How many symbols without a share follow: three and more for as long as it is three. -/
def skipped : Nat → Bits Nat
  | 0 => throw .corrupt
  | fuel + 1 => do
    let n ← Bits.low 2
    if n = 3 then return 3 + (← skipped fuel) else return n

/-- A share out of those that are left. Of the numbers that would need one bit more than others, the lower
ones do without it. -/
def share (left : Nat) : Bits Share := do
  let width := Nat.log2 (left + 1)
  let spare := 2 * Nat.pow 2 width - 1 - (left + 1)
  let n ← Bits.low width
  if n < spare then return ofNumber n
  let more ← Bits.bit
  return ofNumber (if more then n + Nat.pow 2 width - spare else n)
where
  ofNumber (n : Nat) : Share := if n = 0 then .least else .part (n - 1)

def shares (symbols : Nat) : Nat → Nat → List Share → Bits (List Share)
  | 0, _, _ => throw .corrupt
  | fuel + 1, left, reversed => do
    if left = 0 then return reversed.reverse
    if symbols ≤ reversed.length then throw .corrupt
    match ← share left with
    | .part 0 =>
      let more ← skipped fuel
      shares symbols fuel left (List.replicate (more + 1) (.part 0) ++ reversed)
    | s => shares symbols fuel (left - s.count) (s :: reversed)

/-- A state: the symbol it stands for, and how the next one is found, from so many bits and the first of
the states that they choose from. -/
structure Cell where
  symbol : Nat
  width : Nat
  first : Nat

structure StateCode where
  width : Nat
  cells : Array Cell

namespace StateCode

/-- The symbols of all states. Those with the least share are at the end, the others are spread over the
places before them, from each to the next by a step that comes to every place. -/
def spread (size : Nat) (shares : List Share) : Array Nat :=
  let least := shares.zipIdx.filter fun (s, _) => match s with
    | .least => true
    | .part _ => false
  let free := size - least.length
  let parts := shares.zipIdx.flatMap fun (s, symbol) => match s with
    | .least => []
    | .part count => List.replicate count symbol
  let step := size / 2 + size / 8 + 3
  let places := ((List.range size).map fun k => k * step % size).filter (· < free)
  let table := Array.replicate size 0
  let table := (places.zip parts).foldl (fun t (place, symbol) => t.setIfInBounds place symbol) table
  least.zipIdx.foldl (fun t ((_, symbol), k) => t.setIfInBounds (size - 1 - k) symbol) table

def ofShares (width : Nat) (shares : List Share) : StateCode :=
  let size := Nat.pow 2 width
  let counts := (shares.map Share.count).toArray
  let (cells, _) := (spread size shares).foldl (fun (cells, counts) symbol =>
    let n := counts.getD symbol 0
    let bits := width - Nat.log2 n
    (cells.push ⟨symbol, bits, n * Nat.pow 2 bits - size⟩, counts.setIfInBounds symbol (n + 1)))
    ((#[] : Array Cell), counts)
  { width, cells }

def single (symbol : Nat) : StateCode := ⟨0, #[⟨symbol, 0, 0⟩]⟩

def cell (code : StateCode) (state : Nat) : Cell := code.cells.getD state ⟨0, 0, 0⟩

def read (symbols widest : Nat) : Bits StateCode := do
  let width := (← Bits.low 4) + 5
  if widest < width then throw .corrupt
  let fuel := (← get).length + 1
  return ofShares width (← shares symbols fuel (Nat.pow 2 width) [])

def start (code : StateCode) : Bits Nat := Bits.high code.width

def next (code : StateCode) (state : Nat) : Bits Nat := do
  let c := code.cell state
  return c.first + (← Bits.high c.width)

end StateCode

end NullFlow.Archive.Zstd
