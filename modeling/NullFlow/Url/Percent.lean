import NullFlow.Text.Utf8

namespace NullFlow.Url

open Text (Bytes)

def isControl (c : Char) : Bool :=
  c.toNat < 0x20 || 0x7F ≤ c.toNat

abbrev EncodeSet := Char → Bool

def EncodeSet.of (chars : String) : EncodeSet :=
  fun c => isControl c || chars.toList.contains c

namespace EncodeSet

def plain : EncodeSet := .of ""

def fragment : EncodeSet := .of " \"<>`"

def path : EncodeSet := .of " \"<>`#?\x7b\x7d"

def userinfo : EncodeSet := .of " \"<>`#?\x7b\x7d/:;=@[\\]^|"

/-- An apostrophe is encoded in the queries of special schemes only. -/
def query (special : Bool) : EncodeSet := .of (if special then " \"#<>'" else " \"#<>")

end EncodeSet

def hexDigit (n : Nat) : Char :=
  (Nat.digitChar n).toUpper

def encodeByte (b : UInt8) : List Char :=
  ['%', hexDigit (b.toNat / 16), hexDigit (b.toNat % 16)]

def encodeChar (set : EncodeSet) (c : Char) : List Char :=
  if set c then (String.utf8EncodeChar c).flatMap encodeByte else [c]

def percentEncode (set : EncodeSet) (cs : List Char) : String :=
  String.ofList (cs.flatMap (encodeChar set))

def digitValue? (c : Char) : Option Nat :=
  if c.isDigit then some (c.toNat - 0x30)
  else if 'a' ≤ c ∧ c ≤ 'f' then some (c.toNat - 0x57)
  else if 'A' ≤ c ∧ c ≤ 'F' then some (c.toNat - 0x37)
  else none

def byteValue? (high low : Char) : Option UInt8 := do
  return ((← digitValue? high) * 16 + (← digitValue? low)).toUInt8

/-- The encoded bytes; a percent sign without two digits after it stands for itself. -/
def percentDecode : List Char → Bytes
  | [] => []
  | '%' :: high :: low :: rest =>
    match byteValue? high low with
    | some b => b :: percentDecode rest
    | none => 0x25 :: percentDecode (high :: low :: rest)
  | c :: rest => String.utf8EncodeChar c ++ percentDecode rest

end NullFlow.Url
