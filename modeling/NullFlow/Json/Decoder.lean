import NullFlow.Json.Lexeme

namespace NullFlow.Json

open Text (Bytes)

/-- Reads a value from the bytes, given how many brackets may still be opened. -/
abbrev Decoder (α : Type) := Nat → Bytes → Except Failure (α × Bytes)

def maxDepth : Nat := 127

def fail (reason : Reason) : Except Failure α :=
  .error ⟨[], reason⟩

def lift : Except Reason α → Except Failure α
  | .ok a => .ok a
  | .error reason => fail reason

def within (step : Step) : Except Failure α → Except Failure α
  | .ok a => .ok a
  | .error e => .error (e.within step)

def invalidType (expected : String) (found : Found) : Reason :=
  .invalidType found expected

/-- The complaint about a value of the wrong type, of which the first byte is given. A scalar is
read to its end first, and a problem in it wins. -/
def mismatch (expected : String) (b : UInt8) (s : Bytes) : Reason :=
  let wrong := invalidType expected
  let after {β : Type} (result : Except Reason β) (found : β → Found) : Reason :=
    match result with
    | .ok a => wrong (found a)
    | .error reason => reason
  if b = 0x6E then after (word restOfNull s) fun _ => .null
  else if b = 0x74 then after (word restOfTrue s) fun _ => .bool true
  else if b = 0x66 then after (word restOfFalse s) fun _ => .bool false
  else if b = 0x2D then after (readNumber true s) fun r => .number r.1
  else if isDigit b then after (readNumber false (b :: s)) fun r => .number r.1
  else if b = 0x22 then after (readString s) fun r => .string r.1
  else if b = 0x5B then wrong .sequence
  else if b = 0x7B then wrong .map
  else .expectedValue

def byFirst (read : UInt8 → Bytes → Except Failure (α × Bytes)) : Bytes → Except Failure (α × Bytes) :=
  fun s => match skipBlank s with
    | [] => fail .eofValue
    | b :: s => read b s

namespace Decoder

def map (f : α → β) (decoder : Decoder α) : Decoder β := fun depth s => do
  let (a, s) ← decoder depth s
  return (f a, s)

def text : Decoder String := fun _ => byFirst fun b s =>
  if b = 0x22 then lift (readString s) else fail (mismatch "a string" b s)

def bool : Decoder Bool := fun _ => byFirst fun b s =>
  if b = 0x74 then lift ((word restOfTrue s).map (true, ·))
  else if b = 0x66 then lift ((word restOfFalse s).map (false, ·))
  else fail (mismatch "a boolean" b s)

def number (expected : String) (accept : Number → Except Reason α) : Decoder α :=
  fun _ => byFirst fun b s => do
    let (n, s) ←
      if b = 0x2D then lift (readNumber true s)
      else if isDigit b then lift (readNumber false (b :: s))
      else fail (mismatch expected b s)
    return (← lift (accept n), s)

def integer (expected : String) (least greatest : Int) : Decoder Int :=
  number expected fun
    | .int n => if least ≤ n ∧ n ≤ greatest then .ok n else .error (.invalidValue n expected)
    | n => .error (invalidType expected (.number n))

def nat32 : Decoder Nat := (integer "u32" 0 0xFFFFFFFF).map Int.toNat

def nat64 : Decoder Nat := (integer "usize" 0 0xFFFFFFFFFFFFFFFF).map Int.toNat

def int64 : Decoder Int := integer "i64" (-0x8000000000000000) 0x7FFFFFFFFFFFFFFF

def binary64 : Decoder Binary64 :=
  number "f64" fun
    | .real x => .ok x
    | .int n => match Binary64.ofInt n with
      | some x => .ok x
      | none => .error .numberOutOfRange

def unit : Decoder Unit := fun _ => byFirst fun b s =>
  if b = 0x6E then lift ((word restOfNull s).map ((), ·)) else fail (mismatch "unit" b s)

def option (decoder : Decoder α) : Decoder (Option α) := fun depth s =>
  match skipBlank s with
  | b :: rest =>
    if b = 0x6E then lift ((word restOfNull rest).map (none, ·))
    else decoder.map some depth (b :: rest)
  | [] => decoder.map some depth []

end Decoder

def enter : Nat → Except Failure Nat
  | 0 => fail .recursionLimit
  | depth + 1 => .ok depth

def nextElement (first : Bool) (s : Bytes) : Except Reason (Option Bytes) :=
  match skipBlank s with
  | [] => .error .eofList
  | b :: rest =>
    if b = 0x5D then .ok none
    else if first then .ok (some (b :: rest))
    else if b = 0x2C then
      match skipBlank rest with
      | [] => .error .eofValue
      | c :: rest => if c = 0x5D then .error .trailingComma else .ok (some (c :: rest))
    else .error .expectedCommaOrBracket

def nextName (first : Bool) (s : Bytes) : Except Reason (Option Bytes) :=
  match skipBlank s with
  | [] => .error .eofObject
  | b :: rest =>
    if b = 0x7D then .ok none
    else if first then if b = 0x22 then .ok (some rest) else .error .keyNotString
    else if b = 0x2C then
      match skipBlank rest with
      | [] => .error .eofValue
      | c :: rest =>
        if c = 0x22 then .ok (some rest)
        else if c = 0x7D then .error .trailingComma
        else .error .keyNotString
    else .error .expectedCommaOrBrace

def readName (first : Bool) (s : Bytes) : Except Reason (Option (String × Bytes)) := do
  match ← nextName first s with
  | none => return none
  | some s => return some (← readString s)

def endList (s : Bytes) : Except Reason Bytes :=
  match skipBlank s with
  | [] => .error .eofList
  | b :: rest =>
    if b = 0x5D then .ok rest
    else if b = 0x2C then
      match skipBlank rest with
      | c :: _ => .error (if c = 0x5D then .trailingComma else .trailingCharacters)
      | [] => .error .trailingCharacters
    else .error .trailingCharacters

def endObject (s : Bytes) : Except Reason Bytes :=
  match skipBlank s with
  | [] => .error .eofObject
  | b :: rest => if b = 0x7D then .ok rest else .error .trailingCharacters

def colon (s : Bytes) : Except Reason Bytes :=
  match skipBlank s with
  | [] => .error .eofObject
  | b :: rest => if b = 0x3A then .ok rest else .error .expectedColon

/-- The elements up to the closing bracket, counted from `index`. Every element takes at least one
byte, so the length of the text is fuel enough. -/
def elements (item : Bytes → Except Failure (α × Bytes)) :
    Nat → Nat → Bytes → Except Failure (List α × Bytes)
  | 0, _, _ => fail .eofList
  | fuel + 1, index, s => do
    match ← lift (nextElement (index == 0) s) with
    | none => return ([], s)
    | some s =>
      let (a, s) ← within (.index index) (item s)
      let (rest, s) ← elements item fuel (index + 1) s
      return (a :: rest, s)

namespace Decoder

def list (item : Decoder α) : Decoder (List α) := fun depth => byFirst fun b s => do
  if b ≠ 0x5B then fail (mismatch "a sequence" b s)
  else
    let depth ← enter depth
    let (items, s) ← elements (item depth) (s.length + 1) 0 s
    return (items, ← lift (endList s))

end Decoder

/-- A field of a record type: reading it gives the change it makes to the record. -/
structure Field (σ : Type) where
  name : String
  required : Bool
  read : Decoder (σ → σ)

def Field.must (name : String) (decoder : Decoder α) (set : α → σ → σ) : Field σ :=
  ⟨name, true, decoder.map set⟩

def Field.may (name : String) (decoder : Decoder α) (set : α → σ → σ) : Field σ :=
  ⟨name, false, decoder.map set⟩

/-- The members up to the closing brace, read into `record`. Members that name no field are passed
over, and a field may be given once. -/
def members (fields : List (Field σ)) (depth : Nat) :
    Nat → Bool → List String → σ → Bytes → Except Failure (σ × List String × Bytes)
  | 0, _, _, _, _ => fail .eofObject
  | fuel + 1, first, seen, record, s => do
    match ← within .unknown (lift (readName first s)) with
    | none => return (record, seen, s)
    | some (name, s) =>
      match fields.find? (·.name == name) with
      | none =>
        let s ← lift (colon s)
        let s ← within (.key name) (lift (skipValue s))
        members fields depth fuel false seen record s
      | some field =>
        if seen.contains name then fail (.duplicateField name)
        else
          let s ← lift (colon s)
          let (set, s) ← within (.key name) (field.read depth s)
          members fields depth fuel false (name :: seen) (set record) s

def positional (expected : String) (depth : Nat) :
    List (Field σ) → Nat → σ → Bytes → Except Failure (σ × Bytes)
  | [], _, record, s => .ok (record, s)
  | field :: rest, index, record, s => do
    match ← lift (nextElement (index == 0) s) with
    | none =>
      match (field :: rest).findIdx? (·.required) with
      | some missing => fail (.invalidLength (index + missing) expected)
      | none => return (record, s)
    | some s =>
      let (set, s) ← within (.index index) (field.read depth s)
      positional expected depth rest (index + 1) (set record) s

def elementCount (n : Nat) : String :=
  if n = 1 then "1 element" else s!"{n} elements"

namespace Decoder

def record (name : String) (fields : List (Field σ)) (blank : σ) : Decoder σ :=
  fun depth => byFirst fun b s => do
    let expected := "struct " ++ name
    if b = 0x5B then
      let depth ← enter depth
      let (result, s) ←
        positional (expected ++ " with " ++ elementCount fields.length) depth fields 0 blank s
      return (result, ← lift (endList s))
    else if b = 0x7B then
      let depth ← enter depth
      let (result, seen, s) ← members fields depth (s.length + 1) true [] blank s
      match fields.find? fun f => f.required && !seen.contains f.name with
      | some field => fail (.missingField field.name)
      | none => return (result, ← lift (endObject s))
    else fail (mismatch expected b s)

end Decoder

/-- A named alternative: it stands for itself, or has a content. -/
inductive Variant (α : Type) where
  | unit (value : α)
  | content (decoder : Decoder α)

namespace Decoder

def choose (variants : List (String × Variant α)) (name : String) : Except Failure (Variant α) :=
  match variants.lookup name with
  | some variant => .ok variant
  | none => fail (.unknownVariant name (variants.map (·.1)))

def onlyName (s : Bytes) : Except Reason (String × Bytes) :=
  match skipBlank s with
  | [] => .error .eofObject
  | b :: rest =>
    if b = 0x22 then readString rest
    else .error (if b = 0x7D then .expectedValue else .keyNotString)

def variant (variants : List (String × Variant α)) : Decoder α := fun depth => byFirst fun b s => do
  if b = 0x22 then
    let (name, s) ← lift (readString s)
    match ← choose variants name with
    | .unit value => return (value, s)
    | .content _ =>
      within (.key name) (fail (.invalidType .unitVariant "newtype variant"))
  else if b = 0x7B then
    let depth ← enter depth
    let (name, s) ← lift (onlyName s)
    let alternative ← choose variants name
    let s ← lift (colon s)
    let (value, s) ← within (.key name) <| match alternative with
      | .unit value => Decoder.unit.map (fun _ => value) depth s
      | .content decoder => decoder depth s
    match skipBlank s with
    | [] => fail .eofObject
    | c :: s => if c = 0x7D then return (value, s) else fail .expectedValue
  else fail .expectedValue

/-- Reads a document. What follows its first value does not matter. -/
def run (decoder : Decoder α) (s : Bytes) : Except Failure α :=
  (decoder maxDepth s).map (·.1)

end Decoder

def namedValues (value : Bytes → Except Failure (Json × Bytes)) :
    Nat → Bool → Bytes → Except Failure (List (String × Json) × Bytes)
  | 0, _, _ => fail .eofObject
  | fuel + 1, first, s => do
    match ← within .unknown (lift (readName first s)) with
    | none => return ([], s)
    | some (name, s) =>
      let s ← lift (colon s)
      let (v, s) ← within (.key name) (value s)
      let (rest, s) ← namedValues value fuel false s
      return ((name, v) :: rest, s)

def valueWith (inner : Except Failure (Bytes → Except Failure (Json × Bytes))) :
    Bytes → Except Failure (Json × Bytes) :=
  byFirst fun b s => do
    if b = 0x6E then return (.null, ← lift (word restOfNull s))
    else if b = 0x74 then return (.bool true, ← lift (word restOfTrue s))
    else if b = 0x66 then return (.bool false, ← lift (word restOfFalse s))
    else if b = 0x2D then
      let (n, s) ← lift (readNumber true s)
      return (.number n, s)
    else if isDigit b then
      let (n, s) ← lift (readNumber false (b :: s))
      return (.number n, s)
    else if b = 0x22 then
      let (text, s) ← lift (readString s)
      return (.string text, s)
    else if b = 0x5B then
      let (items, s) ← elements (← inner) (s.length + 1) 0 s
      return (.array items, ← lift (endList s))
    else if b = 0x7B then
      let (values, s) ← namedValues (← inner) (s.length + 1) true s
      return (.object values, ← lift (endObject s))
    else fail .expectedValue

def anyValue : Decoder Json
  | 0 => valueWith (fail .recursionLimit)
  | depth + 1 => valueWith (.ok (anyValue depth))

def parse (s : Bytes) : Except Failure Json :=
  Decoder.run anyValue s

end NullFlow.Json
