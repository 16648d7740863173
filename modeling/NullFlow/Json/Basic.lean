import NullFlow.Binary64

namespace NullFlow

/-- Whole numbers between `-2 ^ 63` and `2 ^ 64` are kept exactly. -/
inductive Json.Number where
  | int (value : Int)
  | real (value : Binary64)
  deriving DecidableEq

inductive Json where
  | null
  | bool (value : Bool)
  | number (value : Json.Number)
  | string (value : String)
  | array (items : List Json)
  | object (members : List (String × Json))

namespace Json

instance : Inhabited Json := ⟨.null⟩

def nat (n : Nat) : Json := .number (.int n)

def int (n : Int) : Json := .number (.int n)

def strings (items : List String) : Json := .array (items.map .string)

def get? (name : String) : Json → Option Json
  | .object members => members.reverse.lookup name
  | _ => none

/-- Puts a member in the order of the names, in place of one of the same name. -/
def putMember (name : String) (value : Json) : List (String × Json) → List (String × Json)
  | [] => [(name, value)]
  | (n, v) :: rest =>
    if name < n then (name, value) :: (n, v) :: rest
    else if name = n then (name, value) :: rest
    else (n, v) :: putMember name value rest

mutual

def canonical : Json → Json
  | .array items => .array (canonicalItems items)
  | .object members => .object (canonicalMembers [] members)
  | value => value

def canonicalItems : List Json → List Json
  | [] => []
  | item :: rest => canonical item :: canonicalItems rest

def canonicalMembers (done : List (String × Json)) :
    List (String × Json) → List (String × Json)
  | [] => done
  | (name, value) :: rest => canonicalMembers (putMember name (canonical value) done) rest

end

end Json

end NullFlow
