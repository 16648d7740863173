namespace NullFlow

/-- The number `±mantissa · 2 ^ exponent`. The mantissa is below `2 ^ 53`, and at least `2 ^ 52`
unless the exponent is the smallest there is, so that each number has one form. -/
structure Binary64 where
  negative : Bool
  mantissa : Nat
  exponent : Int
  deriving DecidableEq

namespace Binary64

def leastNormal : Nat := 0x10000000000000

def minExponent : Int := -1074

def maxExponent : Int := 971

def divHalfEven (num den : Nat) : Nat :=
  let q := num / den
  let r := num % den
  if 2 * r > den ∨ (2 * r = den ∧ q % 2 = 1) then q + 1 else q

def scaled (num den : Nat) (e : Int) : Nat × Nat :=
  if 0 ≤ e then (num, den * Nat.pow 2 e.toNat) else (num * Nat.pow 2 (-e).toNat, den)

/-- The number nearest to `num / den`, of two equally near the one with the even mantissa; `none`
when that is beyond the largest. -/
def nearest (num den : Nat) : Option Binary64 :=
  if num = 0 then some ⟨false, 0, minExponent⟩
  else
    let low := max minExponent ((num.log2 : Int) - den.log2 - 53)
    let (n, d) := scaled num den low
    let e := if n / d < 2 * leastNormal then low else low + 1
    let (n, d) := scaled num den e
    let m := divHalfEven n d
    let (m, e) := if m = 2 * leastNormal then (leastNormal, e + 1) else (m, e)
    if e ≤ maxExponent then some ⟨false, m, e⟩ else none

def ratio (x : Binary64) : Nat × Nat :=
  scaled x.mantissa 1 (-x.exponent)

def mul (x y : Binary64) : Option Binary64 :=
  nearest (x.ratio.1 * y.ratio.1) (x.ratio.2 * y.ratio.2)

def div (x y : Binary64) : Option Binary64 :=
  nearest (x.ratio.1 * y.ratio.2) (x.ratio.2 * y.ratio.1)

def withSign (negative : Bool) (x : Binary64) : Binary64 :=
  { x with negative }

def maxPowerOfTen : Nat := 308

/-- Scales a magnitude by a power of ten, rounding after each of the factors the exponent is split
into; `none` when the result is too large. Two factors below one already give zero. -/
def scaleByTen : Nat → Binary64 → Int → Option Binary64
  | fuel, x, e =>
    if e.natAbs ≤ maxPowerOfTen then do
      let power ← nearest (Nat.pow 10 e.natAbs) 1
      if 0 ≤ e then x.mul power else x.div power
    else if x.mantissa = 0 then some x
    else if 0 ≤ e then none
    else match fuel with
      | 0 => nearest 0 1
      | fuel + 1 => do
        let power ← nearest (Nat.pow 10 maxPowerOfTen) 1
        scaleByTen fuel (← x.div power) (e + maxPowerOfTen)

/-- `significand · 10 ^ exponent` as decimal text is read: the significand is rounded first, and
then scaled. -/
def ofDecimal (negative : Bool) (significand : Nat) (exponent : Int) : Option Binary64 := do
  let x ← nearest significand 1
  return (← scaleByTen 3 x exponent).withSign negative

def ofInt (value : Int) : Option Binary64 :=
  (nearest value.natAbs 1).map (withSign (value < 0))

end Binary64

end NullFlow
