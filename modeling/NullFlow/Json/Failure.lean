import NullFlow.Json.Basic
import NullFlow.Binary64.Shortest
import NullFlow.Text.Quoted

namespace NullFlow.Json

inductive Found where
  | null
  | bool (value : Bool)
  | number (value : Number)
  | string (value : String)
  | sequence
  | map
  | unitVariant

def Found.text : Found → String
  | .null => "null"
  | .bool value => if value then "boolean `true`" else "boolean `false`"
  | .number (.int value) => s!"integer `{value}`"
  | .number (.real value) => "floating point `" ++ value.jsonText ++ "`"
  | .string value => "string " ++ Text.quoted value
  | .sequence => "sequence"
  | .map => "map"
  | .unitVariant => "unit variant"

inductive Reason where
  | eofValue | eofList | eofObject | eofString
  | expectedValue | expectedIdent | expectedColon
  | expectedCommaOrBracket | expectedCommaOrBrace
  | trailingComma | trailingCharacters | keyNotString
  | invalidNumber | numberOutOfRange
  | invalidEscape | controlCharacter | hexEscapeEnd | loneSurrogate | invalidCodePoint
  | recursionLimit
  | invalidType (found : Found) (expected : String)
  | invalidValue (value : Int) (expected : String)
  | invalidLength (length : Nat) (expected : String)
  | missingField (name : String)
  | duplicateField (name : String)
  | unknownVariant (name : String) (expected : List String)

def Reason.message : Reason → String
  | .eofValue => "EOF while parsing a value"
  | .eofList => "EOF while parsing a list"
  | .eofObject => "EOF while parsing an object"
  | .eofString => "EOF while parsing a string"
  | .expectedValue => "expected value"
  | .expectedIdent => "expected ident"
  | .expectedColon => "expected `:`"
  | .expectedCommaOrBracket => "expected `,` or `]`"
  | .expectedCommaOrBrace => "expected `,` or `\x7d`"
  | .trailingComma => "trailing comma"
  | .trailingCharacters => "trailing characters"
  | .keyNotString => "key must be a string"
  | .invalidNumber => "invalid number"
  | .numberOutOfRange => "number out of range"
  | .invalidEscape => "invalid escape"
  | .controlCharacter => "control character (\\u0000-\\u001F) found while parsing a string"
  | .hexEscapeEnd => "unexpected end of hex escape"
  | .loneSurrogate => "lone leading surrogate in hex escape"
  | .invalidCodePoint => "invalid unicode code point"
  | .recursionLimit => "recursion limit exceeded"
  | .invalidType found expected => "invalid type: " ++ found.text ++ ", expected " ++ expected
  | .invalidValue value expected => s!"invalid value: integer `{value}`, expected {expected}"
  | .invalidLength length expected => s!"invalid length {length}, expected {expected}"
  | .missingField name => s!"missing field `{name}`"
  | .duplicateField name => s!"duplicate field `{name}`"
  | .unknownVariant name expected =>
    let choices := ", ".intercalate (expected.map fun v => "`" ++ v ++ "`")
    s!"unknown variant `{name}`, expected one of {choices}"

/-- One step from a value into a part of it; into a member whose name cannot be read it is unknown. -/
inductive Step where
  | key (name : String)
  | index (position : Nat)
  | unknown
  deriving DecidableEq

abbrev Path := List Step

def Path.text : Path → String
  | [] => ""
  | .index i :: rest => s!"[{i}]" ++ later rest
  | .key name :: rest => name ++ later rest
  | .unknown :: rest => "?" ++ later rest
where
  later : Path → String
    | [] => ""
    | .index i :: rest => s!"[{i}]" ++ later rest
    | .key name :: rest => "." ++ name ++ later rest
    | .unknown :: rest => ".?" ++ later rest

structure Failure where
  path : Path
  reason : Reason

def Failure.within (step : Step) (e : Failure) : Failure :=
  { e with path := step :: e.path }

/-- A path of which no step is known is not shown. -/
def Failure.message (e : Failure) : String :=
  if e.path.all (· = .unknown) then e.reason.message
  else Path.text e.path ++ ": " ++ e.reason.message

end NullFlow.Json
