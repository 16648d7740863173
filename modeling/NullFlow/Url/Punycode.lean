namespace NullFlow.Url.Punycode

def firstCode : Nat := 128

def firstBias : Nat := 72

def threshold (weight bias : Nat) : Nat :=
  min 26 (max 1 (weight - bias))

def digit (n : Nat) : Char :=
  if n < 26 then Char.ofNat (0x61 + n) else Char.ofNat (0x30 + (n - 26))

def digits (bias : Nat) : Nat → Nat → Nat → List Char
  | 0, _, _ => []
  | fuel + 1, weight, n =>
    let t := threshold weight bias
    if n < t then [digit n]
    else digit (t + (n - t) % (36 - t)) :: digits bias fuel (weight + 36) ((n - t) / (36 - t))

def settle : Nat → Nat → Nat × Nat
  | 0, delta => (delta, 0)
  | fuel + 1, delta =>
    if 455 < delta then
      let (delta, count) := settle fuel (delta / 35)
      (delta, count + 1)
    else (delta, 0)

/-- The bias that fits a step, the better the more characters were placed. -/
def adapt (delta placed : Nat) (first : Bool) : Nat :=
  let delta := if first then delta / 700 else delta / 2
  let delta := delta + delta / placed
  let (delta, count) := settle delta delta
  36 * count + 36 * delta / (delta + 38)

structure State where
  delta : Nat
  bias : Nat
  placed : Nat
  output : List Char

def place (basic code : Nat) (s : State) (c : Char) : State :=
  if c.toNat < code then { s with delta := s.delta + 1 }
  else if c.toNat = code then
    { delta := 0
      bias := adapt s.delta (s.placed + 1) (s.placed = basic)
      placed := s.placed + 1
      output := s.output ++ digits s.bias (s.delta + 1) 36 s.delta }
  else s

def placeAll (label : List Char) (basic : Nat) : Nat → List Nat → State → State
  | _, [], s => s
  | reached, code :: codes, s =>
    let s := { s with delta := s.delta + (code - reached) * (s.placed + 1) }
    let s := label.foldl (place basic code) s
    placeAll label basic (code + 1) codes { s with delta := s.delta + 1 }

def encode (label : List Char) : List Char :=
  let basic := label.filter (·.toNat < firstCode)
  let codes := ((label.filter (firstCode ≤ ·.toNat)).map (·.toNat)).eraseDups.mergeSort
  let s := placeAll label basic.length firstCode codes ⟨0, firstBias, basic.length, []⟩
  basic ++ (if basic.isEmpty then [] else ['-']) ++ s.output

def digitValue? (c : Char) : Option Nat :=
  if 'a' ≤ c ∧ c ≤ 'z' then some (c.toNat - 0x61)
  else if '0' ≤ c ∧ c ≤ '9' then some (c.toNat - 0x30 + 26)
  else none

def maxWord : Nat := 0xFFFFFFFF

/-- Adds the number at the head of the digits to `n`, given the weight of its first digit and the product of
the bases so far. -/
def readNumber (bias : Nat) : Nat → Nat → Nat → List Char → Option (Nat × List Char)
  | _, _, _, [] => none
  | weight, factor, n, c :: rest => do
    let d ← digitValue? c
    let n := n + d * factor
    if maxWord < n then none
    else
      let t := threshold weight bias
      if d < t then some (n, rest)
      else
        let factor := factor * (36 - t)
        if maxWord < factor then none else readNumber bias (weight + 36) factor n rest

def insertAll : Nat → Nat → Nat → Nat → List Char → List Char → Option (List Char)
  | 0, _, _, _, label, digits => if digits.isEmpty then some label else none
  | _ + 1, _, _, _, label, [] => some label
  | fuel + 1, bias, code, position, label, digits => do
    let (n, rest) ← readNumber bias 36 1 position digits
    let count := label.length + 1
    let code := code + n / count
    if !code.isValidChar then none
    else
      let bias := adapt (n - position) count (position = 0)
      insertAll fuel bias code (n % count + 1)
        (label.take (n % count) ++ Char.ofNat code :: label.drop (n % count)) rest

/-- The label that the text encodes: what stands before the last hyphen, and the characters that the rest
puts into it. A hyphen needs something before it. -/
def decode? (text : List Char) : Option (List Char) :=
  let reversed := text.reverse
  let digits := (reversed.takeWhile (· ≠ '-')).reverse
  let basic := ((reversed.dropWhile (· ≠ '-')).drop 1).reverse
  if basic.isEmpty ∧ text.contains '-' then none
  else insertAll digits.length firstBias firstCode 0 basic digits

end NullFlow.Url.Punycode
