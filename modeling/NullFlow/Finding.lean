import NullFlow.Metadata
import NullFlow.Nullity

namespace NullFlow

inductive Member where
  | field (name : String)
  | property (name : String)
  | method (name : String)
  deriving DecidableEq

def Member.ofMethodName (name : String) : Member :=
  match name.toList with
  | 'g' :: 'e' :: 't' :: '_' :: rest => .property (String.ofList rest)
  | 's' :: 'e' :: 't' :: '_' :: rest => .property (String.ofList rest)
  | _ => .method name

def Member.ofOperand? : Operand → Option Member
  | .field ref => some (.field ref.name)
  | .method ref => some (ofMethodName ref.name)
  | .signature ref => some (ofMethodName ref.name)
  | _ => none

inductive Sink where
  | argument | field | result
  deriving DecidableEq

/-- A receiver is only reported when it is certainly null, a value that flows into a sink also when
it may be. -/
inductive Issue where
  | nullReceiver (member : Member)
  | nullInto (sink : Sink)
  | maybeNullInto (sink : Sink)
  deriving DecidableEq

def Member.text : Member → String
  | .field name => "field " ++ name
  | .property name => "property " ++ name
  | .method name => "method " ++ name

def Issue.message : Issue → String
  | .nullReceiver member => "accessing " ++ member.text ++ " from null object"
  | .nullInto .argument => "passing null value as argument declared non-null"
  | .nullInto .field => "storing null value in field declared non-null"
  | .nullInto .result => "returning null value from method declared non-null"
  | .maybeNullInto .argument => "passing possibly null value as argument declared non-null"
  | .maybeNullInto .field => "storing possibly null value in field declared non-null"
  | .maybeNullInto .result => "returning possibly null value from method declared non-null"

def Issue.ofFlow (sink : Sink) : Nullity → List Issue
  | .null => [.nullInto sink]
  | .unknown => [.maybeNullInto sink]
  | .nonNull => []
  | .unused => []

def Issue.ofReceiver (operand : Operand) (receiver : Nullity) : List Issue :=
  if receiver = .null then (Member.ofOperand? operand).toList.map .nullReceiver else []

structure Finding where
  offset : Nat
  issue : Issue
  deriving DecidableEq

namespace Finding

def message (f : Finding) : String := f.issue.message

def before (a b : Finding) : Bool :=
  a.offset < b.offset || (a.offset == b.offset && a.message < b.message)

/-- Puts a finding in its place, unless one that reads the same is there. -/
def insert (f : Finding) : List Finding → List Finding
  | [] => [f]
  | g :: gs =>
    if f.before g then f :: g :: gs else if g.before f then g :: insert f gs else g :: gs

def sort (findings : List Finding) : List Finding :=
  findings.foldl (fun sorted f => insert f sorted) []

end Finding

end NullFlow
