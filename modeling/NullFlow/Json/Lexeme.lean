import NullFlow.Json.Failure
import NullFlow.Text.Utf8

namespace NullFlow.Json

open Text (Bytes)

def isBlank (b : UInt8) : Bool :=
  b == 0x20 || b == 0x0A || b == 0x09 || b == 0x0D

def skipBlank (s : Bytes) : Bytes :=
  s.dropWhile isBlank

def word : List UInt8 → Bytes → Except Reason Bytes
  | [], s => .ok s
  | _ :: _, [] => .error .eofValue
  | w :: ws, b :: s => if b = w then word ws s else .error .expectedIdent

def restOfNull : List UInt8 := [0x75, 0x6C, 0x6C]
def restOfTrue : List UInt8 := [0x72, 0x75, 0x65]
def restOfFalse : List UInt8 := [0x61, 0x6C, 0x73, 0x65]

def letterEscape (b : UInt8) : Option UInt8 :=
  if b = 0x22 ∨ b = 0x5C ∨ b = 0x2F then some b
  else if b = 0x62 then some 0x08
  else if b = 0x66 then some 0x0C
  else if b = 0x6E then some 0x0A
  else if b = 0x72 then some 0x0D
  else if b = 0x74 then some 0x09
  else none

def hexDigit (b : UInt8) : Option Nat :=
  if 0x30 ≤ b ∧ b ≤ 0x39 then some (b.toNat - 0x30)
  else if 0x41 ≤ b ∧ b ≤ 0x46 then some (b.toNat - 0x37)
  else if 0x61 ≤ b ∧ b ≤ 0x66 then some (b.toNat - 0x57)
  else none

def hexValue (digits : List UInt8) : Option Nat :=
  digits.foldlM (fun n b => (hexDigit b).map (16 * n + ·)) 0

def isHighSurrogate (n : Nat) : Bool := 0xD800 ≤ n && n ≤ 0xDBFF
def isLowSurrogate (n : Nat) : Bool := 0xDC00 ≤ n && n ≤ 0xDFFF

def surrogatePair (high low : Nat) : Nat :=
  0x10000 + (high - 0xD800) * 0x400 + (low - 0xDC00)

def codePoint (n : Nat) : Bytes :=
  String.utf8EncodeChar (Char.ofNat n)

/-- Where in a string the reader stands: in plain text, behind a backslash, among four hex digits
(of which some are read, perhaps behind a high surrogate), or before the backslash or the letter
that must follow a high surrogate. -/
inductive StringState where
  | plain
  | escape
  | hex (high : Option Nat) (digits : List UInt8)
  | pair (high : Nat)
  | pairEscape (high : Nat)

def stringBytes : StringState → Bytes → Except Reason (Bytes × Bytes)
  | _, [] => .error .eofString
  | .plain, b :: s =>
    if b = 0x22 then .ok ([], s)
    else if b = 0x5C then stringBytes .escape s
    else if b < 0x20 then .error .controlCharacter
    else emit [b] (stringBytes .plain s)
  | .escape, b :: s =>
    if b = 0x75 then stringBytes (.hex none []) s
    else match letterEscape b with
      | some c => emit [c] (stringBytes .plain s)
      | none => .error .invalidEscape
  | .hex high digits, b :: s =>
    if digits.length < 3 then stringBytes (.hex high (digits ++ [b])) s
    else match hexValue (digits ++ [b]), high with
      | none, _ => .error .invalidEscape
      | some n, none =>
        if isLowSurrogate n then .error .loneSurrogate
        else if isHighSurrogate n then stringBytes (.pair n) s
        else emit (codePoint n) (stringBytes .plain s)
      | some n, some high =>
        if isLowSurrogate n then emit (codePoint (surrogatePair high n)) (stringBytes .plain s)
        else .error .loneSurrogate
  | .pair high, b :: s =>
    if b = 0x5C then stringBytes (.pairEscape high) s else .error .hexEscapeEnd
  | .pairEscape high, b :: s =>
    if b = 0x75 then stringBytes (.hex (some high) []) s else .error .hexEscapeEnd
where
  emit (bytes : Bytes) (result : Except Reason (Bytes × Bytes)) : Except Reason (Bytes × Bytes) :=
    result.map fun (text, rest) => (bytes ++ text, rest)

def readString (s : Bytes) : Except Reason (String × Bytes) := do
  let (bytes, rest) ← stringBytes .plain s
  match Text.decode? bytes with
  | some text => return (text, rest)
  | none => throw .invalidCodePoint

/-- Reads on to the closing quote of a string nobody looks at: its escapes must be well formed, but
need not stand for characters. -/
def skipString : StringState → Bytes → Except Reason Bytes
  | _, [] => .error .eofString
  | .hex _ digits, b :: s =>
    if digits.length < 3 then skipString (.hex none (digits ++ [b])) s
    else if (hexValue (digits ++ [b])).isSome then skipString .plain s
    else .error .invalidEscape
  | .escape, b :: s =>
    if b = 0x75 then skipString (.hex none []) s
    else if (letterEscape b).isSome then skipString .plain s
    else .error .invalidEscape
  | _, b :: s =>
    if b = 0x22 then .ok s
    else if b = 0x5C then skipString .escape s
    else if b < 0x20 then .error .controlCharacter
    else skipString .plain s

def isDigit (b : UInt8) : Bool :=
  0x30 ≤ b && b ≤ 0x39

def maxSignificand : Nat := 0xFFFFFFFFFFFFFFFF

/-- Appends digits to a significand while it fits its word; the number of digits that did, and of
those that were left out. -/
def significand (n : Nat) : Bytes → Nat × Nat × Nat
  | [] => (n, 0, 0)
  | d :: ds =>
    let next := 10 * n + (d.toNat - 0x30)
    if next ≤ maxSignificand then
      let (m, taken, left) := significand next ds
      (m, taken + 1, left)
    else (n, 0, ds.length + 1)

def real (negative : Bool) (n : Nat) (exponent : Int) : Except Reason Number :=
  match Binary64.ofDecimal negative n exponent with
  | some x => .ok (.real x)
  | none => .error .numberOutOfRange

/-- A whole number that fits its word. A negative zero is a real number, as is what lies below the
smallest word. -/
def whole (negative : Bool) (n : Nat) : Except Reason Number :=
  if !negative then .ok (.int n)
  else if 0 < n ∧ n ≤ 0x8000000000000000 then .ok (.int (-n))
  else real true n 0

def exponentPart (negative : Bool) (n : Nat) (scale : Int) (s : Bytes) :
    Except Reason (Number × Bytes) := do
  let (down, s) := match s with
    | b :: rest => if b = 0x2B then (false, rest) else if b = 0x2D then (true, rest) else (false, s)
    | [] => (false, [])
  match s with
  | [] => throw .eofValue
  | b :: _ =>
    if !isDigit b then throw .invalidNumber
    let e : Int := (s.takeWhile isDigit).foldl (fun n d => 10 * n + (d.toNat - 0x30)) 0
    return (← real negative n (if down then scale - e else scale + e), s.dropWhile isDigit)

def fractionPart (negative : Bool) (n : Nat) (scale : Int) (s : Bytes) :
    Except Reason (Number × Bytes) := do
  let digits := s.takeWhile isDigit
  let rest := s.dropWhile isDigit
  if digits.isEmpty then throw (if s.isEmpty then .eofValue else .invalidNumber)
  let (n, taken, _) := significand n digits
  match rest with
  | b :: after =>
    if b = 0x65 ∨ b = 0x45 then exponentPart negative n (scale - taken) after
    else return (← real negative n (scale - taken), rest)
  | [] => return (← real negative n (scale - taken), rest)

def readNumber (negative : Bool) (s : Bytes) : Except Reason (Number × Bytes) := do
  match s with
  | [] => throw .eofValue
  | b :: after =>
    if !isDigit b then throw .invalidNumber
    let digits := if b = 0x30 then [b] else s.takeWhile isDigit
    let rest := if b = 0x30 then after else s.dropWhile isDigit
    let (n, _, left) := significand 0 digits
    match rest with
    | c :: after =>
      if b = 0x30 ∧ isDigit c then throw .invalidNumber
      if c = 0x2E then fractionPart negative n left after
      else if c = 0x65 ∨ c = 0x45 then exponentPart negative n left after
      else return (← if left = 0 then whole negative n else real negative n left, rest)
    | [] => return (← if left = 0 then whole negative n else real negative n left, rest)

def skipDigits (s : Bytes) : Except Reason Bytes :=
  if (s.takeWhile isDigit).isEmpty then .error .invalidNumber else .ok (s.dropWhile isDigit)

def skipExponent (s : Bytes) : Except Reason Bytes :=
  match s with
  | b :: rest => if b = 0x2B ∨ b = 0x2D then skipDigits rest else skipDigits s
  | [] => .error .invalidNumber

def skipNumber (s : Bytes) : Except Reason Bytes := do
  match s with
  | [] => throw .invalidNumber
  | b :: after =>
    if !isDigit b then throw .invalidNumber
    let rest := if b = 0x30 then after else s.dropWhile isDigit
    match rest with
    | c :: after =>
      if b = 0x30 ∧ isDigit c then throw .invalidNumber
      if c = 0x2E then
        match ← skipDigits after with
        | d :: after => if d = 0x65 ∨ d = 0x45 then skipExponent after else return d :: after
        | [] => return []
      else if c = 0x65 ∨ c = 0x45 then skipExponent after
      else return rest
    | [] => return []

inductive Bracket where
  | list | object

def Bracket.closing : Bracket → UInt8
  | .list => 0x5D
  | .object => 0x7D

def Bracket.eof : Bracket → Reason
  | .list => .eofList
  | .object => .eofObject

def Bracket.expected : Bracket → Reason
  | .list => .expectedCommaOrBracket
  | .object => .expectedCommaOrBrace

def skipScalar (b : UInt8) (s : Bytes) : Except Reason Bytes :=
  if b = 0x6E then word restOfNull s
  else if b = 0x74 then word restOfTrue s
  else if b = 0x66 then word restOfFalse s
  else if b = 0x2D then skipNumber s
  else if isDigit b then skipNumber (b :: s)
  else if b = 0x22 then skipString .plain s
  else .error .expectedValue

def skipName (s : Bytes) : Except Reason Bytes := do
  match skipBlank s with
  | [] => throw .eofObject
  | b :: s =>
    if b ≠ 0x22 then throw .keyNotString
    match skipBlank (← skipString .plain s) with
    | [] => throw .eofObject
    | c :: s => if c = 0x3A then return s else throw .expectedColon

/-- Where the skipper stands: before a value, behind an opening bracket, or behind a value. -/
inductive SkipState where
  | value | opened | after

/-- Passes over the rest of a value inside the given open brackets, however deep it nests. -/
def skipFrom : Nat → SkipState → List Bracket → Bytes → Except Reason Bytes
  | _, .after, [], s => .ok s
  | 0, _, _, _ => .error .eofValue
  | fuel + 1, .value, brackets, s =>
    match skipBlank s with
    | [] => .error .eofValue
    | b :: s =>
      if b = 0x5B then skipFrom fuel .opened (.list :: brackets) s
      else if b = 0x7B then skipFrom fuel .opened (.object :: brackets) s
      else do skipFrom fuel .after brackets (← skipScalar b s)
  | _ + 1, .opened, [], s => .ok s
  | fuel + 1, .opened, bracket :: brackets, s =>
    match skipBlank s with
    | [] => .error bracket.eof
    | b :: rest =>
      if b = bracket.closing then skipFrom fuel .after brackets rest
      else do skipFrom fuel .value (bracket :: brackets) (← member bracket (b :: rest))
  | fuel + 1, .after, bracket :: brackets, s =>
    match skipBlank s with
    | [] => .error bracket.eof
    | b :: rest =>
      if b = bracket.closing then skipFrom fuel .after brackets rest
      else if b = 0x2C then do
        skipFrom fuel .value (bracket :: brackets) (← member bracket rest)
      else .error bracket.expected
where
  member : Bracket → Bytes → Except Reason Bytes
    | .list, s => .ok s
    | .object, s => skipName s

def skipValue (s : Bytes) : Except Reason Bytes :=
  skipFrom (2 * s.length + 2) .value [] s

end NullFlow.Json
