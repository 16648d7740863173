import NullFlow.Effect
import NullFlow.Frame
import NullFlow.Finding
import NullFlow.Contracts

namespace NullFlow

/-- A method with the type that declares it, its body, and the contracts it is held to. -/
structure Scope where
  owner : String
  method : MethodDef
  body : MethodBody
  contracts : Contracts

/-- Why an instruction cannot be executed: the frame does not admit it, or its operand is not what
its opcode takes. -/
inductive StepError where
  | frame (cause : FrameError)
  | needsSlot (opcode : Opcode)
  | negativeSlot (opcode : Opcode) (slot : Int)
  | needsMethod (opcode : Opcode)
  | needsField (opcode : Opcode)
  deriving DecidableEq

def StepError.message : StepError → String
  | .frame cause => cause.message
  | .needsSlot opcode => opcode.mnemonic ++ " requires a local or argument operand"
  | .negativeSlot opcode slot =>
    opcode.mnemonic ++ s!" has negative slot {slot}: number too small to fit in target type"
  | .needsMethod opcode => opcode.mnemonic ++ " requires a method operand"
  | .needsField opcode => opcode.mnemonic ++ " requires a field operand"

def StepError.frameError? : StepError → Option FrameError
  | .frame cause => some cause
  | _ => none

def onFrame : Except FrameError α → Except StepError α
  | .ok a => .ok a
  | .error cause => .error (.frame cause)

namespace Instruction

def slot (i : Instruction) : Except StepError Nat :=
  match i.operand with
  | .localVar index => .ok index
  | .arg index => .ok index
  | .int value => if 0 ≤ value then .ok value.toNat else .error (.negativeSlot i.opcode value)
  | _ => .error (.needsSlot i.opcode)

def methodRef (i : Instruction) : Except StepError MethodRef :=
  match i.operand with
  | .method ref => .ok ref
  | .signature ref => .ok ref
  | _ => .error (.needsMethod i.opcode)

def fieldRef (i : Instruction) : Except StepError FieldRef :=
  match i.operand with
  | .field ref => .ok ref
  | _ => .error (.needsField i.opcode)

def chosenSlot (i : Instruction) : SlotChoice → Except StepError Nat
  | .fixed index => .ok index
  | .operand => i.slot

end Instruction

namespace Scope

def fullName (s : Scope) : String :=
  s.method.fullName s.owner

/-- A field may hold null unless a contract says otherwise. A field whose definition is not at hand
is given the benefit of the doubt. -/
def fieldValue (s : Scope) (ref : FieldRef) : Nullity :=
  if ref.unresolved || s.contracts.field ref.fullName then .nonNull else .unknown

def callResult (s : Scope) (callee : MethodRef) : Nullity :=
  if callee.unresolved || s.contracts.method callee.fullName then .nonNull else .unknown

def fieldStore (s : Scope) (ref : FieldRef) (v : Nullity) : List Issue :=
  if s.contracts.field ref.fullName then Issue.ofFlow .field v else []

def popArguments (s : Scope) (callee : String) :
    Nat → Frame → Except FrameError (Frame × List Issue)
  | 0, f => .ok (f, [])
  | index + 1, f => do
    let (v, f) ← f.pop
    let here := if s.contracts.parameter callee index then Issue.ofFlow .argument v else []
    let (f, rest) ← popArguments s callee index f
    return (f, here ++ rest)

def popPointer (indirect : Bool) (f : Frame) : Except FrameError Frame :=
  if indirect then f.popN 1 else .ok f

def popReceiver (callee : MethodRef) (operand : Operand) (f : Frame) :
    Except FrameError (Frame × List Issue) :=
  if callee.hasThis then do
    let (v, f) ← f.pop
    return (f, Issue.ofReceiver operand v)
  else .ok (f, [])

def pushResult (s : Scope) (callee : MethodRef) (f : Frame) : Except FrameError Frame :=
  match callee.returnType.returnKind with
  | .void => .ok f
  | .value => f.push .nonNull
  | .reference => f.push (s.callResult callee)

def call (s : Scope) (i : Instruction) (indirect : Bool) (f : Frame) :
    Except StepError (Frame × List Issue) := do
  let callee ← i.methodRef
  onFrame do
    let f ← popPointer indirect f
    let (f, arguments) ← s.popArguments callee.fullName callee.parameters.length f
    let (f, receiver) ← popReceiver callee i.operand f
    return (← s.pushResult callee f, arguments ++ receiver)

def step (s : Scope) (i : Instruction) (f : Frame) : Except StepError (Frame × List Issue) :=
  match i.opcode.effect with
  | .none => .ok (f, [])
  | .push v => do return (← onFrame (f.push v), [])
  | .pop count => do return (← onFrame (f.popN count), [])
  | .replace count v => onFrame do
    let f ← f.popN count
    return (← f.push v, [])
  | .dup => onFrame do
    let v ← f.peek 0
    return (← f.push v, [])
  | .clear => .ok (f.clearStack, [])
  | .loadArg choice => do
    let index ← i.chosenSlot choice
    onFrame do
      let v ← f.getArg index
      return (← f.push v, [])
  | .storeArg => do
    let (v, f) ← onFrame f.pop
    let index ← i.slot
    return (← onFrame (f.setArg index v), [])
  | .addressArg => do
    let index ← i.slot
    onFrame do
      let f ← f.setArg index .unknown
      return (← f.push .nonNull, [])
  | .loadLocal choice => do
    let index ← i.chosenSlot choice
    onFrame do
      let v ← f.getLocal index
      return (← f.push v, [])
  | .storeLocal choice => do
    let index ← i.chosenSlot choice
    onFrame do
      let (v, f) ← f.pop
      return (← f.setLocal index v, [])
  | .addressLocal => do
    let index ← i.slot
    onFrame do
      let f ← f.setLocal index .unknown
      return (← f.push .nonNull, [])
  | .call indirect => s.call i indirect f
  | .ret =>
    if s.method.returnType.isVoid then .ok (f, [])
    else onFrame do
      let (v, f) ← f.pop
      return (f, if s.contracts.method s.fullName then Issue.ofFlow .result v else [])
  | .construct => do
    let constructor ← i.methodRef
    onFrame do
      let f ← f.popN constructor.parameters.length
      return (← f.push .nonNull, [])
  | .loadField => do
    let ref ← i.fieldRef
    onFrame do
      let (receiver, f) ← f.pop
      return (← f.push (s.fieldValue ref), Issue.ofReceiver i.operand receiver)
  | .addressField => do
    let _ ← i.fieldRef
    onFrame do
      let (receiver, f) ← f.pop
      return (← f.push .nonNull, Issue.ofReceiver i.operand receiver)
  | .storeField => do
    let ref ← i.fieldRef
    onFrame do
      let (v, f) ← f.pop
      let (receiver, f) ← f.pop
      return (f, Issue.ofReceiver i.operand receiver ++ s.fieldStore ref v)
  | .loadStatic => do
    let ref ← i.fieldRef
    return (← onFrame (f.push (s.fieldValue ref)), [])
  | .addressStatic => do
    let _ ← i.fieldRef
    return (← onFrame (f.push .nonNull), [])
  | .storeStatic => do
    let ref ← i.fieldRef
    onFrame do
      let (v, f) ← f.pop
      return (f, s.fieldStore ref v)

end Scope

end NullFlow
