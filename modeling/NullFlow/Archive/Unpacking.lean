import NullFlow.Text.Utf8

namespace NullFlow.Archive

open Text (Bytes)

/-- Why data cannot be unpacked: they end too early, they do not start as they should, or they contradict
the format. -/
inductive Fault where
  | ended | badStart | corrupt
  deriving DecidableEq

structure Unpacking where
  bits : List Bool
  input : Bytes
  output : Array UInt8

/-- A step of unpacking. What was unpacked before a fault is kept. -/
abbrev Unpack := EStateM Fault Unpacking

namespace Unpack

def lowBits (b : UInt8) : List Bool :=
  (List.range 8).map fun k => b.toNat / Nat.pow 2 k % 2 = 1

def highBits (b : UInt8) : List Bool := (lowBits b).reverse

def bit (bitsOf : UInt8 → List Bool) : Unpack Bool := do
  let s ← get
  match s.bits with
  | b :: bits =>
    set { s with bits }
    return b
  | [] =>
    match s.input with
    | [] => throw .ended
    | byte :: input =>
      match bitsOf byte with
      | [] => throw .corrupt
      | b :: bits =>
        set { s with bits, input }
        return b

def lowNumber : Nat → Unpack Nat
  | 0 => return 0
  | width + 1 => do
    let b ← bit lowBits
    return b.toNat + 2 * (← lowNumber width)

def highNumber (width : Nat) : Unpack Nat :=
  width.foldM (fun _ _ n => return 2 * n + (← bit highBits).toNat) 0

def align : Unpack Unit :=
  modify fun s => { s with bits := [] }

def byte : Unpack UInt8 := do
  let s ← get
  match s.input with
  | [] => throw .ended
  | b :: input =>
    set { s with input }
    return b

def emit (b : UInt8) : Unpack Unit :=
  modify fun s => { s with output := s.output.push b }

def copy (distance length : Nat) : Unpack Unit := do
  let size := (← get).output.size
  if distance = 0 ∨ size < distance then throw .corrupt
  length.forM fun _ _ =>
    modify fun s => { s with output := s.output.push (s.output.getD (s.output.size - distance) 0) }

def run (u : Unpack Unit) (packed : Bytes) : Bytes × Option Fault :=
  match EStateM.run u ⟨[], packed, #[]⟩ with
  | .ok _ s => (s.output.toList, none)
  | .error e s => (s.output.toList, some e)

end Unpack

/-- A code that gives shorter words to more frequent symbols: how many words there are of each length,
from one on, and the symbols in the order of their words. -/
structure PrefixCode where
  counts : List Nat
  symbols : Array Nat

namespace PrefixCode

def ofLengths (lengths : List Nat) : PrefixCode :=
  let longest := lengths.foldl max 0
  let sizes := (List.range (max 1 longest)).map (· + 1)
  { counts := sizes.map fun n => (lengths.filter (· = n)).length
    symbols := (sizes.flatMap fun n =>
      (lengths.zipIdx.filter fun (length, _) => length = n).map (·.2)).toArray }

def room? (code : PrefixCode) : Option Nat :=
  code.counts.foldlM (fun left count => if 2 * left < count then none else some (2 * left - count)) 1

/-- Reads a word bit by bit: `first` is the first word of the length reached, and `index` its symbol. -/
def walk (bitsOf : UInt8 → List Bool) (symbols : Array Nat) :
    List Nat → Nat → Nat → Nat → Unpack Nat
  | [], _, _, _ => throw .corrupt
  | count :: counts, word, first, index => do
    let word := word + (← Unpack.bit bitsOf).toNat
    if word < first + count then return symbols.getD (index + (word - first)) 0
    else walk bitsOf symbols counts (2 * word) (2 * (first + count)) (index + count)

def read (bitsOf : UInt8 → List Bool) (code : PrefixCode) : Unpack Nat :=
  walk bitsOf code.symbols code.counts 0 0 0

end PrefixCode

end NullFlow.Archive
