import NullFlow.Archive.Record
import NullFlow.Archive.Zstd.StateCode

namespace NullFlow.Archive.Zstd

open Text (Bytes)

/-- A code with a word for every symbol: for each number of `width` bits, the symbol whose word it starts
with, and how long the word is. -/
structure WordCode where
  width : Nat
  words : Array (Nat × Nat)

namespace WordCode

def weigh (weight : Nat) : Nat := if weight = 0 then 0 else Nat.pow 2 (weight - 1)

/-- The code with these weights. The last symbol has the rest, which makes all a power of two. Some words
have all the bits that a word may have. -/
def ofWeights (weights : List Nat) : Except Fault WordCode := do
  let total := (weights.map weigh).foldl (· + ·) 0
  if total = 0 then throw .corrupt
  let width := Nat.log2 total + 1
  let rest := Nat.pow 2 width - total
  if 12 < width ∨ rest ≠ Nat.pow 2 (Nat.log2 rest) then throw .corrupt
  let weights := weights ++ [Nat.log2 rest + 1]
  if !weights.contains 1 then throw .corrupt
  let words := (List.range width).flatMap fun k =>
    (weights.zipIdx.filter (·.1 = k + 1)).flatMap fun (_, symbol) =>
      List.replicate (Nat.pow 2 k) (symbol, width - k)
  return ⟨width, words.toArray⟩

/-- Reads weights with two states in turn. When there are too few bits for one to go on, the symbol of the
other is the last. -/
def weights (code : StateCode) : Nat → Nat → Nat → Bits (List Nat)
  | 0, _, _ => throw .corrupt
  | fuel + 1, state, other => do
    let c := code.cell state
    if ((← get).take c.width).length < c.width then
      set ([] : List Bool)
      return [c.symbol, (code.cell other).symbol]
    else
      let state ← code.next state
      return c.symbol :: (← weights code fuel other state)

def packedWeights (data : Bytes) : Except Fault (List Nat) := do
  let (code, data) ← forward (StateCode.read 13 6) data
  let bits ← backward data
  Bits.all (do
    let state ← code.start
    let other ← code.start
    weights code 254 state other) bits

def plainWeights (count : Nat) (data : Bytes) : List Nat :=
  (data.flatMap fun b => [b.toNat / 16, b.toNat % 16]).take count

def read : Bytes → Except Fault (WordCode × Bytes)
  | [] => .error .corrupt
  | size :: data => do
    let size := size.toNat
    let taken := if size < 128 then size else (size - 126) / 2
    if data.length < taken then throw .corrupt
    let weights ←
      if size < 128 then packedWeights (data.take taken)
      else pure (plainWeights (size - 127) (data.take taken))
    if weights.any (12 < ·) then throw .corrupt
    return (← ofWeights weights, data.drop taken)

def symbol (code : WordCode) : Bits UInt8 := do
  let bits ← get
  let index := (List.range code.width).foldl (fun n k => 2 * n + (bits.getD k false).toNat) 0
  let (symbol, width) := code.words.getD index (0, 0)
  if (bits.take width).length < width then throw .corrupt
  set (bits.drop width)
  return symbol.toUInt8

def stream (code : WordCode) (isExact : Bool) (count : Nat) (data : Bytes) : Except Fault Bytes := do
  Bits.all (do
    let symbols ← (List.range count).mapM fun _ => code.symbol
    if !isExact then set ([] : List Bool)
    return symbols) (← backward data)

/-- Four streams, the sizes of which stand before them. Each but the last has a quarter of the symbols. If
all of them are long, they may hold more than these. -/
def fourStreams (code : WordCode) (count : Nat) (data : Bytes) : Except Fault Bytes := do
  if data.length < 10 ∨ count < 6 then throw .corrupt
  let a := number (data.take 2)
  let b := number ((data.drop 2).take 2)
  let c := number ((data.drop 4).take 2)
  let data := data.drop 6
  if data.length < a + b + c then throw .corrupt
  let quarter := (count + 3) / 4
  let isExact := decide (min a (min b c) < 8 ∨ data.length < a + b + c + 8)
  let first ← code.stream isExact quarter (data.take a)
  let second ← code.stream isExact quarter ((data.drop a).take b)
  let third ← code.stream isExact quarter ((data.drop (a + b)).take c)
  let fourth ← code.stream isExact (count - 3 * quarter) (data.drop (a + b + c))
  return first ++ second ++ third ++ fourth

end WordCode

def largestBlock : Nat := 131072

def plainLiterals (isRun : Bool) (data : Bytes) : Except Fault (Bytes × Bytes) := do
  let format := (data.headD 0).toNat / 4 % 4
  let header := if format = 1 then 2 else if format = 3 then 3 else 1
  if data.length < header then throw .corrupt
  let size := number (data.take header) / (if header = 1 then 8 else 16)
  if largestBlock < size then throw .corrupt
  let data := data.drop header
  if isRun then
    match data with
    | [] => throw .corrupt
    | b :: data => return (List.replicate size b, data)
  else
    if data.length < size then throw .corrupt
    return (data.take size, data.drop size)

/-- Literals in a code, which stands before them or is that of the block before. -/
def codedLiterals (known : Option WordCode) (data : Bytes) :
    Except Fault (WordCode × Bytes × Bytes) := do
  let kind := (data.headD 0).toNat % 4
  let format := (data.headD 0).toNat / 4 % 4
  let header := max 3 (format + 2)
  if kind = 3 ∧ known.isNone then throw .noCode
  if data.length < 5 then throw .corrupt
  let sizes := number (data.take header) / 16
  let limit := Nat.pow 2 (4 * header - 2)
  let size := sizes % limit
  let packedSize := sizes / limit
  let data := data.drop header
  if largestBlock < size ∨ data.length < packedSize then throw .corrupt
  let packed := data.take packedSize
  let (code, packed) ←
    match kind, known with
    | 3, some code => pure (code, packed)
    | _, _ => WordCode.read packed
  let literals ← if format = 0 then code.stream true size packed else code.fourStreams size packed
  return (code, literals, data.drop packedSize)

def literals (known : Option WordCode) (data : Bytes) :
    Except Fault (Option WordCode × Bytes × Bytes) := do
  let kind := (data.headD 0).toNat % 4
  if kind < 2 then
    let (literals, rest) ← plainLiterals (kind = 1) data
    return (known, literals, rest)
  else
    let (code, literals, rest) ← codedLiterals known data
    return (some code, literals, rest)

end NullFlow.Archive.Zstd
