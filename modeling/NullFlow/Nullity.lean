namespace NullFlow

/-- `unused` is the value of a slot no path has reached yet, `unknown` that of a slot that may or
may not hold null. -/
inductive Nullity where
  | unused | null | nonNull | unknown
  deriving DecidableEq

namespace Nullity

/-- What holds of a slot that takes either value: the least upper bound of the two, with `unused`
below `null` and `nonNull`, and both of these below `unknown`. -/
def merge : Nullity → Nullity → Nullity
  | .unused, b => b
  | a, .unused => a
  | .null, .null => .null
  | .nonNull, .nonNull => .nonNull
  | _, _ => .unknown

def level : Nullity → Nat
  | .unused => 0
  | .null => 1
  | .nonNull => 1
  | .unknown => 2

def name : Nullity → String
  | .unused => "unused"
  | .null => "null"
  | .nonNull => "non-null"
  | .unknown => "unknown"

def symbol : Nullity → Char
  | .unused => '-'
  | .null => 'N'
  | .nonNull => 'V'
  | .unknown => '?'

end Nullity

end NullFlow
