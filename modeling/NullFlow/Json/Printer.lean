import NullFlow.Json.Basic
import NullFlow.Binary64.Shortest

namespace NullFlow.Json

def Number.text : Number → String
  | .int value => toString value
  | .real value => value.jsonText

def escapedChar (c : Char) : List Char :=
  if c = '"' then ['\\', '"']
  else if c = '\\' then ['\\', '\\']
  else if c = '\n' then ['\\', 'n']
  else if c = '\r' then ['\\', 'r']
  else if c = '\t' then ['\\', 't']
  else if c = '\x08' then ['\\', 'b']
  else if c = '\x0c' then ['\\', 'f']
  else if c.toNat < 0x20 then
    ['\\', 'u', '0', '0'] ++ (if c.toNat < 0x10 then ['0'] else []) ++ Nat.toDigits 16 c.toNat
  else [c]

def stringText (s : String) : String :=
  String.ofList ('"' :: s.toList.flatMap escapedChar ++ ['"'])

mutual

def compact : Json → String
  | .null => "null"
  | .bool value => if value then "true" else "false"
  | .number value => value.text
  | .string value => stringText value
  | .array items => "[" ++ ",".intercalate (compactItems items) ++ "]"
  | .object members => "\x7b" ++ ",".intercalate (compactMembers members) ++ "\x7d"

def compactItems : List Json → List String
  | [] => []
  | item :: rest => compact item :: compactItems rest

def compactMembers : List (String × Json) → List String
  | [] => []
  | (name, value) :: rest => (stringText name ++ ":" ++ compact value) :: compactMembers rest

end

def newline (indent : String) : String := "\n" ++ indent

def enclose (opening closing indent : String) (lines : List String) : String :=
  if lines.isEmpty then opening ++ closing
  else
    let inner := newline (indent ++ "  ")
    opening ++ inner ++ ("," ++ inner).intercalate lines ++ newline indent ++ closing

mutual

def pretty (indent : String) : Json → String
  | .array items => enclose "[" "]" indent (prettyItems (indent ++ "  ") items)
  | .object members => enclose "\x7b" "\x7d" indent (prettyMembers (indent ++ "  ") members)
  | .null => "null"
  | .bool value => if value then "true" else "false"
  | .number value => value.text
  | .string value => stringText value

def prettyItems (indent : String) : List Json → List String
  | [] => []
  | item :: rest => pretty indent item :: prettyItems indent rest

def prettyMembers (indent : String) : List (String × Json) → List String
  | [] => []
  | (name, value) :: rest =>
    (stringText name ++ ": " ++ pretty indent value) :: prettyMembers indent rest

end

end NullFlow.Json
