import NullFlow.Binary64

namespace NullFlow.Binary64

/-- Which of two equally near decimals is taken. -/
inductive Tie where
  | toEven | up
  deriving DecidableEq

structure Decimal where
  digits : Nat
  exponent : Int
  deriving DecidableEq

/-- `a · 2 ^ s` and `c · 10 ^ p`, multiplied by a common factor that makes both whole. -/
def alignTwo (p s : Int) (a : Nat) : Nat :=
  a * Nat.pow 2 s.toNat * Nat.pow 10 (-p).toNat

@[inherit_doc alignTwo]
def alignTen (p s : Int) (c : Nat) : Nat :=
  c * Nat.pow 10 p.toNat * Nat.pow 2 (-s).toNat

def decade (x : Binary64) : Int :=
  let guess := ((x.mantissa.log2 : Int) + x.exponent) * 30103 / 100000
  let below (k : Int) : Bool := alignTen k x.exponent 1 ≤ alignTwo k x.exponent x.mantissa
  if below (guess + 1) then guess + 1 else if below guess then guess else guess - 1

/-- The multiple of `10 ^ p` nearest to the magnitude among those that read back as it. Reading
goes to the nearest number and a half to the even mantissa, so the ends of the interval count
exactly for an even mantissa. -/
def onGrid (x : Binary64) (tie : Tie) (p : Int) : Option Nat :=
  let s := x.exponent - 2
  let two := alignTwo p s
  let ten := alignTen p s
  let m := x.mantissa
  let value := two (4 * m)
  let upper := two (4 * m + 2)
  let lower := two (4 * m - if m = leastNormal ∧ x.exponent > minExponent then 1 else 2)
  let readsBack (c : Nat) : Bool :=
    if m % 2 = 0 then lower ≤ ten c && ten c ≤ upper else lower < ten c && ten c < upper
  let c := value / ten 1
  let below := value - ten c
  let above := ten (c + 1) - value
  if readsBack c then
    if readsBack (c + 1) then
      let takeUpper := above < below ||
        (above == below && (match tie with | .up => true | .toEven => c % 2 == 1))
      some (if takeUpper then c + 1 else c)
    else some c
  else if readsBack (c + 1) then some (c + 1)
  else none

/-- The first of the grids with 1, 2, … digits that holds a decimal reading back as `x`. -/
def search (x : Binary64) (tie : Tie) (k : Int) : Nat → Nat → Decimal
  | 0, _ => ⟨x.mantissa, 0⟩
  | fuel + 1, n =>
    let p := k + 1 - n
    match x.onGrid tie p with
    | some c => ⟨c, p⟩
    | none => search x tie k fuel (n + 1)

def Decimal.trim : Nat → Decimal → Decimal
  | 0, d => d
  | fuel + 1, d =>
    if d.digits ≠ 0 ∧ d.digits % 10 = 0 then trim fuel ⟨d.digits / 10, d.exponent + 1⟩ else d

def shortest (x : Binary64) (tie : Tie) : Decimal :=
  if x.mantissa = 0 then ⟨0, 0⟩
  else (search x tie x.decade 17 1).trim 400

def zeros (n : Nat) : List Char :=
  List.replicate n '0'

def positional (d : Decimal) (whole : String) : String :=
  let ds := Nat.toDigits 10 d.digits
  if 0 ≤ d.exponent then String.ofList (ds ++ zeros d.exponent.toNat) ++ whole
  else
    let places := (-d.exponent).toNat
    let padded := zeros (places + 1 - ds.length) ++ ds
    let point := padded.length - places
    String.ofList (padded.take point ++ '.' :: padded.drop point)

def scientific (d : Decimal) : String :=
  let ds := Nat.toDigits 10 d.digits
  let e := d.exponent + (ds.length - 1 : Nat)
  let mark := if e < 0 then ['e', '-'] else ['e', '+']
  let es := Nat.toDigits 10 e.natAbs
  let fraction := if ds.length ≤ 1 then [] else '.' :: ds.drop 1
  String.ofList (ds.take 1 ++ fraction ++ mark ++ es)

def signText (x : Binary64) : String :=
  if x.negative then "-" else ""

def plainText (x : Binary64) : String :=
  x.signText ++ positional (x.shortest .up) ""

def jsonText (x : Binary64) : String :=
  let d := x.shortest .toEven
  let e := d.exponent + ((Nat.toDigits 10 d.digits).length - 1 : Nat)
  x.signText ++ if d.digits = 0 ∨ (-5 ≤ e ∧ e ≤ 15) then positional d ".0" else scientific d

end NullFlow.Binary64
