import NullFlow.Opcode
import NullFlow.Binary64

namespace NullFlow

structure TypeRef where
  fullName : String
  isValueType : Bool
  deriving DecidableEq

def TypeRef.isVoid (t : TypeRef) : Bool :=
  t.fullName == "System.Void"

/-- The target of a call as the calling method sees it. A member is unresolved when the assembly
that defines it was not available. -/
structure MethodRef where
  declaringType : String
  name : String
  hasThis : Bool
  parameters : List TypeRef
  returnType : TypeRef
  unresolved : Bool
  deriving DecidableEq

structure FieldRef where
  declaringType : String
  name : String
  fieldType : TypeRef
  unresolved : Bool
  deriving DecidableEq

inductive Operand where
  | none
  | int (value : Int)
  | float (value : Binary64)
  | string (value : String)
  | localVar (index : Nat)
  | arg (index : Nat)
  | target (offset : Nat)
  | targets (offsets : List Nat)
  | method (ref : MethodRef)
  | field (ref : FieldRef)
  | type (ref : TypeRef)
  | signature (ref : MethodRef)
  deriving DecidableEq

/-- The offsets a branch names, every entry of a switch table included. -/
def Operand.branchTargets : Operand → List Nat
  | .target offset => [offset]
  | .targets offsets => offsets
  | _ => []

structure Instruction where
  offset : Nat
  opcode : Opcode
  operand : Operand
  deriving DecidableEq

inductive HandlerKind where
  | catch | filter | finally | fault
  deriving DecidableEq

/-- The exception object is on the stack when the handler starts. -/
def HandlerKind.receivesException : HandlerKind → Bool
  | .catch => true
  | .filter => true
  | .finally => false
  | .fault => false

/-- A protected region and its handler. The end offsets lie just outside. -/
structure ExceptionHandler where
  kind : HandlerKind
  tryStart : Nat
  tryEnd : Nat
  handlerStart : Nat
  handlerEnd : Nat
  filterStart : Option Nat
  deriving DecidableEq

def ExceptionHandler.protects (h : ExceptionHandler) (offset : Nat) : Bool :=
  h.tryStart ≤ offset && offset < h.tryEnd

structure MethodBody where
  maxStack : Nat
  locals : List TypeRef
  instructions : List Instruction
  handlers : List ExceptionHandler
  deriving DecidableEq

abbrev Attributes := List (Option String)

def Attributes.has (attributes : Attributes) (constructor : String) : Bool :=
  attributes.contains (some constructor)

structure ParameterDef where
  name : String
  parameterType : TypeRef
  attributes : Attributes
  deriving DecidableEq

structure FieldDef where
  name : String
  fieldType : TypeRef
  attributes : Attributes
  deriving DecidableEq

/-- Abstract methods, and those the runtime provides, have no body. -/
structure MethodDef where
  name : String
  returnType : TypeRef
  hasThis : Bool
  parameters : List ParameterDef
  attributes : Attributes
  body : Option MethodBody
  deriving DecidableEq

def MethodDef.argCount (m : MethodDef) : Nat :=
  m.parameters.length + m.hasThis.toNat

inductive TypeDef where
  | mk (fullName : String) (fields : List FieldDef) (methods : List MethodDef)
      (nested : List TypeDef)

namespace TypeDef

def fullName : TypeDef → String
  | .mk name _ _ _ => name

def fields : TypeDef → List FieldDef
  | .mk _ fields _ _ => fields

def methods : TypeDef → List MethodDef
  | .mk _ _ methods _ => methods

def nested : TypeDef → List TypeDef
  | .mk _ _ _ nested => nested

mutual

/-- The type and, behind it, the types nested in it at any depth. -/
def withNested : TypeDef → List TypeDef
  | .mk name fields methods nested => .mk name fields methods nested :: allNested nested

def allNested : List TypeDef → List TypeDef
  | [] => []
  | t :: rest => t.withNested ++ allNested rest

end

mutual

def methodCount : TypeDef → Nat
  | .mk _ _ methods nested => methods.length + countNested nested

def countNested : List TypeDef → Nat
  | [] => 0
  | t :: rest => t.methodCount + countNested rest

end

end TypeDef

structure Module where
  name : String
  types : List TypeDef

structure Assembly where
  name : String
  modules : List Module

def Assembly.types (a : Assembly) : List TypeDef :=
  a.modules.flatMap fun m => TypeDef.allNested m.types

end NullFlow
