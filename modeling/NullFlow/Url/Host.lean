import NullFlow.Url.Domain
import NullFlow.Url.Percent

namespace NullFlow

inductive UrlError where
  | noBase | emptyHost | badPort | badDomain | badCharacter | badIpv4 | badIpv6
  deriving DecidableEq

def UrlError.message : UrlError → String
  | .noBase => "relative URL without a base"
  | .emptyHost => "empty host"
  | .badPort => "invalid port number"
  | .badDomain => "invalid international domain name"
  | .badCharacter => "invalid domain character"
  | .badIpv4 => "invalid IPv4 address"
  | .badIpv6 => "invalid IPv6 address"

namespace Url

def numeral? (base : Nat) (cs : List Char) : Option Nat :=
  cs.foldlM (fun n c =>
    match digitValue? c with
    | some d => if d < base then some (n * base + d) else none
    | none => none) 0

inductive Host where
  | name (text : String)
  | ipv4 (address : Nat)
  | ipv6 (pieces : List Nat)
  deriving DecidableEq

namespace Host

/-- A part is hexadecimal after `0x`, octal after `0` and decimal otherwise. -/
def ipv4Part? : List Char → Option Nat
  | [] => none
  | '0' :: 'x' :: digits => numeral? 16 digits
  | '0' :: 'X' :: digits => numeral? 16 digits
  | '0' :: digits => numeral? 8 digits
  | digits => numeral? 10 digits

def labels (domain : List Char) : List (List Char) :=
  let pieces := Text.split '.' domain
  if pieces.getLast? = some [] ∧ 1 < pieces.length then pieces.dropLast else pieces

def endsInNumber (domain : List Char) : Bool :=
  match (labels domain).getLast? with
  | none => false
  | some [] => false
  | some label =>
    label.all Char.isDigit || ((label.take 2 = ['0', 'x'] || label.take 2 = ['0', 'X']) &&
      (ipv4Part? label).isSome)

/-- The last part fills the bytes that the parts before it leave. -/
def ipv4? (domain : List Char) : Option Nat := do
  let parts ← (labels domain).mapM ipv4Part?
  let last ← parts.getLast?
  let leading := parts.dropLast
  if 4 < parts.length ∨ leading.any (255 < ·) ∨ Nat.pow 256 (4 - leading.length) ≤ last then none
  else some (leading.zipIdx.foldl (fun n (part, k) => n + part * Nat.pow 256 (3 - k)) last)

def ipv4Text (address : Nat) : String :=
  ".".intercalate ((List.range 4).map fun k => toString (address / Nat.pow 256 (3 - k) % 256))

def ipv6Piece? (digits : List Char) : Option Nat :=
  if digits.isEmpty ∨ 4 < digits.length then none else numeral? 16 digits

def byte? (digits : List Char) : Option Nat := do
  if digits.isEmpty ∨ (digits.head? = some '0' ∧ 1 < digits.length) then none
  let n ← numeral? 10 digits
  if n ≤ 255 then some n else none

def embedded? (text : List Char) : Option (List Nat) := do
  match ← (Text.split '.' text).mapM byte? with
  | [a, b, c, d] => some [a * 256 + b, c * 256 + d]
  | _ => none

/-- Pieces between colons; the last may be an address of four bytes. -/
def ipv6Pieces? : List (List Char) → Option (List Nat)
  | [] => some []
  | [last] => if last.contains '.' then embedded? last else (ipv6Piece? last).map ([·])
  | piece :: rest => do return (← ipv6Piece? piece) :: (← ipv6Pieces? rest)

def splitPair : List Char → Option (List Char × List Char)
  | ':' :: ':' :: rest => some ([], rest)
  | c :: rest => (splitPair rest).map fun (before, after) => (c :: before, after)
  | [] => none

def colonPieces? (text : List Char) : Option (List Nat) :=
  if text.isEmpty then some [] else ipv6Pieces? (Text.split ':' text)

/-- A pair of colons stands for at least one piece of zero. -/
def ipv6? (text : List Char) : Option (List Nat) :=
  match splitPair text with
  | none => do
    let pieces ← colonPieces? text
    if pieces.length = 8 then some pieces else none
  | some (before, after) => do
    if before.contains '.' then none
    let left ← colonPieces? before
    let right ← colonPieces? after
    if left.length + right.length ≤ 7 then
      some (left ++ List.replicate (8 - left.length - right.length) 0 ++ right)
    else none

def zeros (pieces : List Nat) : Nat := (pieces.takeWhile (· = 0)).length

def longestRun? (pieces : List Nat) : Option Nat :=
  let best := (List.range pieces.length).foldl (fun best k =>
    if zeros (pieces.drop best) < zeros (pieces.drop k) then k else best) 0
  if 2 ≤ zeros (pieces.drop best) then some best else none

def ipv6Text (pieces : List Nat) : String :=
  let text (pieces : List Nat) :=
    ":".intercalate (pieces.map fun n => String.ofList (Nat.toDigits 16 n))
  match longestRun? pieces with
  | none => text pieces
  | some k => text (pieces.take k) ++ "::" ++ text (pieces.drop (k + zeros (pieces.drop k)))

def ofBrackets (text : List Char) : Except UrlError Host :=
  if text.getLast? = some ']' then
    match ipv6? (text.drop 1).dropLast with
    | some pieces => .ok (.ipv6 pieces)
    | none => .error .badIpv6
  else .error .badIpv6

def ofText (text : List Char) : Except UrlError Host :=
  if text.head? = some '[' then ofBrackets text
  else match (Text.chars? (percentDecode text)).bind Domain.toAscii? with
    | none => .error .badDomain
    | some [] => .error .emptyHost
    | some domain =>
      if endsInNumber domain then
        match ipv4? domain with
        | some address => .ok (.ipv4 address)
        | none => .error .badIpv4
      else .ok (.name (String.ofList domain))

def ofPlainText (text : List Char) : Except UrlError Host :=
  if text.head? = some '[' then ofBrackets text
  else if text.any isForbidden then .error .badCharacter
  else .ok (.name (percentEncode .plain text))

def text : Host → String
  | .name text => text
  | .ipv4 address => ipv4Text address
  | .ipv6 pieces => "[" ++ ipv6Text pieces ++ "]"

end Host

end Url

end NullFlow
