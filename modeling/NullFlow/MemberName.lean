import NullFlow.Metadata

namespace NullFlow

inductive ReturnKind where
  | void | value | reference
  deriving DecidableEq

def TypeRef.returnKind (t : TypeRef) : ReturnKind :=
  if t.isVoid then .void else if t.isValueType then .value else .reference

namespace MemberName

/-- `Return Owner::Name(P1,P2)`. -/
def method (returnType owner name : String) (parameters : List String) : String :=
  returnType ++ " " ++ owner ++ "::" ++ name ++ "(" ++ ",".intercalate parameters ++ ")"

/-- `Type Owner::Name`. -/
def field (fieldType owner name : String) : String :=
  fieldType ++ " " ++ owner ++ "::" ++ name

def parameter (method : String) (index : Nat) : String :=
  method ++ "/" ++ toString index

end MemberName

def MethodRef.fullName (m : MethodRef) : String :=
  MemberName.method m.returnType.fullName m.declaringType m.name (m.parameters.map (·.fullName))

def MethodDef.fullName (m : MethodDef) (owner : String) : String :=
  MemberName.method m.returnType.fullName owner m.name
    (m.parameters.map (·.parameterType.fullName))

def FieldRef.fullName (f : FieldRef) : String :=
  MemberName.field f.fieldType.fullName f.declaringType f.name

def FieldDef.fullName (f : FieldDef) (owner : String) : String :=
  MemberName.field f.fieldType.fullName owner f.name

end NullFlow
