namespace NullFlow.Text

abbrev Bytes := List UInt8

def encode (s : String) : Bytes :=
  s.toList.flatMap String.utf8EncodeChar

def continuation? (b : UInt8) : Option Nat :=
  if 0x80 ≤ b ∧ b ≤ 0xBF then some (b.toNat - 0x80) else none

def scalar? (least n : Nat) : Option Char :=
  if least ≤ n ∧ n.isValidChar then some (Char.ofNat n) else none

/-- The characters encoded by the bytes; `none` unless the encoding is the shortest throughout. -/
def chars? : Bytes → Option (List Char)
  | [] => some []
  | a :: s =>
    if a < 0x80 then (chars? s).map (Char.ofNat a.toNat :: ·)
    else match s with
      | [] => none
      | b :: s =>
        if 0xC2 ≤ a ∧ a < 0xE0 then do
          let c ← scalar? 0x80 ((a.toNat - 0xC0) * 0x40 + (← continuation? b))
          return c :: (← chars? s)
        else match s with
          | [] => none
          | c :: s =>
            if 0xE0 ≤ a ∧ a < 0xF0 then do
              let c ← scalar? 0x800
                ((a.toNat - 0xE0) * 0x1000 + (← continuation? b) * 0x40 + (← continuation? c))
              return c :: (← chars? s)
            else match s with
              | [] => none
              | d :: s =>
                if 0xF0 ≤ a ∧ a < 0xF5 then do
                  let c ← scalar? 0x10000
                    ((a.toNat - 0xF0) * 0x40000 + (← continuation? b) * 0x1000 +
                      (← continuation? c) * 0x40 + (← continuation? d))
                  return c :: (← chars? s)
                else none

def decode? (s : Bytes) : Option String :=
  (chars? s).map String.ofList

/-- The length of the encoding that a byte starts, and the bounds of its second byte. -/
def leadByte (a : UInt8) : Nat × UInt8 × UInt8 :=
  if a < 0x80 then (1, 0, 0)
  else if a < 0xC2 then (0, 0, 0)
  else if a < 0xE0 then (2, 0x80, 0xBF)
  else if a = 0xE0 then (3, 0xA0, 0xBF)
  else if a = 0xED then (3, 0x80, 0x9F)
  else if a < 0xF0 then (3, 0x80, 0xBF)
  else if a = 0xF0 then (4, 0x90, 0xBF)
  else if a < 0xF4 then (4, 0x80, 0xBF)
  else if a = 0xF4 then (4, 0x80, 0x8F)
  else (0, 0, 0)

/-- How many bytes at the head belong together: an encoding, or as much of one as there is. -/
def unitLength : Bytes → Nat
  | [] => 0
  | a :: s =>
    let (length, least, greatest) := leadByte a
    match s with
    | [] => 1
    | b :: s =>
      if length < 2 ∨ b < least ∨ greatest < b then 1
      else 2 + ((s.take (length - 2)).takeWhile fun c => (continuation? c).isSome).length

def lossyChars : Nat → Bytes → List Char
  | 0, _ => []
  | _ + 1, [] => []
  | fuel + 1, s =>
    let unit := s.take (unitLength s)
    (chars? unit).getD ['\ufffd'] ++ lossyChars fuel (s.drop (unitLength s))

def decodeLossy (s : Bytes) : String :=
  String.ofList (lossyChars s.length s)

end NullFlow.Text
