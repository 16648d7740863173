import NullFlow.Archive.Unpacking

namespace NullFlow.Archive.Deflate

inductive Kind where
  | plain | wide
  deriving DecidableEq

def lengths (kind : Kind) : List (Nat × Nat) :=
  [(3, 0), (4, 0), (5, 0), (6, 0), (7, 0), (8, 0), (9, 0), (10, 0), (11, 1), (13, 1), (15, 1),
   (17, 1), (19, 2), (23, 2), (27, 2), (31, 2), (35, 3), (43, 3), (51, 3), (59, 3), (67, 4), (83, 4),
   (99, 4), (115, 4), (131, 5), (163, 5), (195, 5), (227, 5),
   match kind with
   | .plain => (258, 0)
   | .wide => (3, 16)]

def distances (kind : Kind) : List (Nat × Nat) :=
  [(1, 0), (2, 0), (3, 0), (4, 0), (5, 1), (7, 1), (9, 2), (13, 2), (17, 3), (25, 3), (33, 4), (49, 4),
   (65, 5), (97, 5), (129, 6), (193, 6), (257, 7), (385, 7), (513, 8), (769, 8), (1025, 9), (1537, 9),
   (2049, 10), (3073, 10), (4097, 11), (6145, 11), (8193, 12), (12289, 12), (16385, 13),
   (24577, 13)] ++
  match kind with
  | .plain => []
  | .wide => [(32769, 14), (49153, 14)]

def endOfBlock : Nat := 256

def valueIn (table : List (Nat × Nat)) (symbol : Nat) : Unpack Nat :=
  match table[symbol]? with
  | none => throw .corrupt
  | some (base, extra) => return base + (← Unpack.lowNumber extra)

/-- The symbols of a block. Each takes a bit or more, so `fuel` of the bits there are will do. -/
def symbols (kind : Kind) (literal distance : PrefixCode) : Nat → Unpack Unit
  | 0 => throw .ended
  | fuel + 1 => do
    let symbol ← literal.read Unpack.lowBits
    if symbol = endOfBlock then return
    if symbol < endOfBlock then Unpack.emit symbol.toUInt8
    else
      let length ← valueIn (lengths kind) (symbol - endOfBlock - 1)
      let back ← valueIn (distances kind) (← distance.read Unpack.lowBits)
      Unpack.copy back length
    symbols kind literal distance fuel

def storedBlock : Unpack Unit := do
  Unpack.align
  let length ← Unpack.lowNumber 16
  let complement ← Unpack.lowNumber 16
  if length + complement ≠ 0xFFFF then throw .corrupt
  length.forM fun _ _ => do Unpack.emit (← Unpack.byte)

def fixedLiteral : PrefixCode :=
  .ofLengths (List.replicate 144 8 ++ List.replicate 112 9 ++ List.replicate 24 7 ++
    List.replicate 8 8)

def fixedDistance : PrefixCode := .ofLengths (List.replicate 32 5)

/-- The code with these lengths, if every word has a meaning. A code of one word may leave the other free. -/
def codeOf (lengths : List Nat) : Unpack PrefixCode := do
  let code := PrefixCode.ofLengths lengths
  match code.room? with
  | none => throw .corrupt
  | some left =>
    if 0 < left ∧ code.counts.length ≠ 1 then throw .corrupt
    return code

def lengthOrder : List Nat := [16, 17, 18, 0, 8, 7, 9, 6, 10, 5, 11, 4, 12, 3, 13, 2, 14, 1, 15]

/-- The lengths of a block's codes, the last of those read first: a symbol is a length, or repeats one. -/
def codeLengths (code : PrefixCode) (count : Nat) : Nat → List Nat → Unpack (List Nat)
  | 0, _ => throw .corrupt
  | fuel + 1, reversed => do
    if reversed.length = count then return reversed.reverse
    let symbol ← code.read Unpack.lowBits
    if symbol < 16 then codeLengths code count fuel (symbol :: reversed)
    else
      let (length, times) ←
        if symbol = 16 then
          match reversed with
          | [] => throw .corrupt
          | last :: _ => pure (last, 3 + (← Unpack.lowNumber 2))
        else if symbol = 17 then pure (0, 3 + (← Unpack.lowNumber 3))
        else pure (0, 11 + (← Unpack.lowNumber 7))
      if count < reversed.length + times then throw .corrupt
      codeLengths code count fuel (List.replicate times length ++ reversed)

def ownCodes (kind : Kind) : Unpack (PrefixCode × PrefixCode) := do
  let literals := 257 + (← Unpack.lowNumber 5)
  let distances := 1 + (← Unpack.lowNumber 5)
  let given := 4 + (← Unpack.lowNumber 4)
  if 286 < literals ∨ (kind = .plain ∧ 30 < distances) then throw .corrupt
  let lengths ← (lengthOrder.take given).mapM fun symbol => return (symbol, ← Unpack.lowNumber 3)
  let code := PrefixCode.ofLengths ((List.range 19).map fun k => (lengths.lookup k).getD 0)
  if code.room? ≠ some 0 then throw .corrupt
  let all ← codeLengths code (literals + distances) (literals + distances + 1) []
  if all.getD endOfBlock 0 = 0 then throw .corrupt
  return (← codeOf (all.take literals), ← codeOf (all.drop literals))

def blocks (kind : Kind) (bits : Nat) : Nat → Unpack Unit
  | 0 => throw .ended
  | fuel + 1 => do
    let isLast ← Unpack.bit Unpack.lowBits
    match ← Unpack.lowNumber 2 with
    | 0 => storedBlock
    | 1 => symbols kind fixedLiteral fixedDistance bits
    | 2 =>
      let (literal, distance) ← ownCodes kind
      symbols kind literal distance bits
    | _ => throw .corrupt
    if !isLast then blocks kind bits fuel

def unpack (kind : Kind) : Unpack Unit := do
  let bits := 8 * (← get).input.length + 1
  blocks kind bits bits

end NullFlow.Archive.Deflate
