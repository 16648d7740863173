import NullFlow.Archive.Zstd.Literals

namespace NullFlow.Archive.Zstd

open Text (Bytes)

/-- How many literals there are, how long the repetition is, and where it comes from: one of the last
distances, or a new one that is three less. -/
structure Sequence where
  literals : Nat
  length : Nat
  origin : Nat

/-- What a number of a sequence can be: for each symbol the least of its values, and how many bits are
added; the shares of the symbols if nothing else is said; and how many bits the states may have. -/
structure Quantity where
  values : List (Nat × Nat)
  width : Nat
  shares : List Share
  widest : Nat

def upTo (count least : Nat) : List (Nat × Nat) :=
  (List.range count).map fun k => (least + k, 0)

def sharesOf (counts : List Nat) (least : Nat) : List Share :=
  counts.map .part ++ List.replicate least .least

def literalCount : Quantity where
  values := upTo 16 0 ++
    [(16, 1), (18, 1), (20, 1), (22, 1), (24, 2), (28, 2), (32, 3), (40, 3), (48, 4), (64, 6),
     (128, 7), (256, 8), (512, 9), (1024, 10), (2048, 11), (4096, 12), (8192, 13), (16384, 14),
     (32768, 15), (65536, 16)]
  width := 6
  shares := sharesOf
    [4, 3, 2, 2, 2, 2, 2, 2, 2, 2, 2, 2, 2, 1, 1, 1, 2, 2, 2, 2, 2, 2, 2, 2, 2, 3, 2, 1, 1, 1, 1, 1] 4
  widest := 9

def matchLength : Quantity where
  values := upTo 32 3 ++
    [(35, 1), (37, 1), (39, 1), (41, 1), (43, 2), (47, 2), (51, 3), (59, 3), (67, 4), (83, 4),
     (99, 5), (131, 7), (259, 8), (515, 9), (1027, 10), (2051, 11), (4099, 12), (8195, 13),
     (16387, 14), (32771, 15), (65539, 16)]
  width := 6
  shares := sharesOf ([1, 4, 3, 2, 2, 2, 2, 2, 2] ++ List.replicate 37 1) 7
  widest := 9

def distanceOrigin : Quantity where
  values := (List.range 32).map fun k => (Nat.pow 2 k, k)
  width := 5
  shares := sharesOf ([1, 1, 1, 1, 1, 1, 2, 2, 2] ++ List.replicate 15 1) 5
  widest := 8

/-- The code of a number in a block: the one for when nothing is said, one symbol, one that stands here,
or that of the block before. -/
def Quantity.code (q : Quantity) (mode : Nat) (known : Option StateCode) (data : Bytes) :
    Except Fault (StateCode × Bytes) := do
  match mode with
  | 0 => return (.ofShares q.width q.shares, data)
  | 1 =>
    match data with
    | [] => throw .corrupt
    | b :: data =>
      if q.values.length ≤ b.toNat then throw .corrupt
      return (.single b.toNat, data)
  | 2 => forward (StateCode.read q.values.length q.widest) data
  | _ =>
    match known with
    | none => throw .corrupt
    | some code => return (code, data)

def Quantity.value (q : Quantity) (code : StateCode) (state : Nat) : Bits Nat := do
  let (least, width) := q.values.getD (code.cell state).symbol (0, 0)
  return least + (← Bits.high width)

structure Codes where
  literals : StateCode
  origin : StateCode
  length : StateCode

def sequencesFrom (codes : Codes) : Nat → Nat → Nat → Nat → Bits (List Sequence)
  | 0, _, _, _ => return []
  | count + 1, l, o, m => do
    let origin ← distanceOrigin.value codes.origin o
    let length ← matchLength.value codes.length m
    let literals ← literalCount.value codes.literals l
    let s : Sequence := ⟨literals, length, origin⟩
    if count = 0 then return [s]
    let l ← codes.literals.next l
    let m ← codes.length.next m
    let o ← codes.origin.next o
    return s :: (← sequencesFrom codes count l o m)

def sequenceCount : Bytes → Except Fault (Nat × Bytes)
  | [] => .error .corrupt
  | a :: data =>
    if a < 128 then .ok (a.toNat, data)
    else
      match a, data with
      | 255, b :: c :: data => .ok (number [b, c] + 0x7F00, data)
      | 255, _ => .error .corrupt
      | a, b :: data => .ok ((a.toNat - 128) * 256 + b.toNat, data)
      | _, [] => .error .corrupt

def sequences (known : Option Codes) (data : Bytes) :
    Except Fault (Option Codes × List Sequence) := do
  let (count, data) ← sequenceCount data
  if count = 0 then
    if !data.isEmpty then throw .corrupt
    return (known, [])
  match data with
  | [] => throw .corrupt
  | modes :: data =>
    let modes := modes.toNat
    if modes % 4 ≠ 0 then throw .corrupt
    let (literals, data) ← literalCount.code (modes / 64) (known.map (·.literals)) data
    let (origin, data) ← distanceOrigin.code (modes / 16 % 4) (known.map (·.origin)) data
    let (length, data) ← matchLength.code (modes / 4 % 4) (known.map (·.length)) data
    let codes : Codes := ⟨literals, origin, length⟩
    let all ← Bits.all (do
      let l ← codes.literals.start
      let o ← codes.origin.start
      let m ← codes.length.start
      sequencesFrom codes count l o m) (← backward data)
    return (some codes, all)

abbrev Recent := Nat × Nat × Nat

/-- Where a sequence repeats from, and the distances after it. Without literals the last distance is not
meant: it would have made the repetition before longer. -/
def Sequence.distance (s : Sequence) (recent : Recent) : Nat × Recent :=
  let (a, b, c) := recent
  let choice := if s.literals = 0 then s.origin + 1 else s.origin
  if 3 < s.origin then (s.origin - 3, (s.origin - 3, a, b))
  else
    match choice with
    | 1 => (a, (a, b, c))
    | 2 => (b, (b, a, c))
    | 3 => (c, (c, a, b))
    | _ => (a - 1, (a - 1, a, b))

def repeatFrom (distance length : Nat) (output : Array UInt8) : Array UInt8 :=
  length.fold (fun _ _ output => output.push (output.getD (output.size - distance) 0)) output

def carryOut (recent : Recent) (output : Array UInt8) (literals : Bytes) :
    List Sequence → Except Fault (Recent × Array UInt8)
  | [] => .ok (recent, output ++ literals.toArray)
  | s :: rest => do
    let taken := literals.take s.literals
    if taken.length < s.literals then throw .corrupt
    let output := output ++ taken.toArray
    let (distance, recent) := s.distance recent
    if distance = 0 ∨ output.size < distance then throw .corrupt
    carryOut recent (repeatFrom distance s.length output) (literals.drop s.literals) rest

end NullFlow.Archive.Zstd
