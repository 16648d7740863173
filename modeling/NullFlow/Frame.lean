import NullFlow.Nullity

namespace NullFlow

inductive SlotKind where
  | localVar | argument
  deriving DecidableEq

def SlotKind.name : SlotKind → String
  | .localVar => "local"
  | .argument => "argument"

inductive FrameError where
  | stackOverflow (maxStack : Nat)
  | stackUnderflow (wanted depth : Nat)
  | slotOutOfRange (kind : SlotKind) (index count : Nat)
  | incompatibleMerge
  deriving DecidableEq

def FrameError.message : FrameError → String
  | .stackOverflow maxStack => s!"stack overflow: push beyond max stack {maxStack}"
  | .stackUnderflow wanted depth =>
    s!"stack underflow: {wanted} value(s) requested from depth {depth}"
  | .slotOutOfRange kind index count =>
    let group := kind.name
    s!"{group} slot {index} out of range ({count} available)"
  | .incompatibleMerge => "cannot merge frames of different shape"

/-- The stack has one slot for each value it may ever hold, of which the lowest `depth` are live.
The operations keep every slot above them `unused`, so that equal frames are equal states. -/
structure Frame where
  stack : List Nullity
  depth : Nat
  locals : List Nullity
  args : List Nullity
  deriving DecidableEq

namespace Frame

def withSlots (maxStack : Nat) (locals args : List Nullity) : Frame :=
  ⟨List.replicate maxStack .unused, 0, locals, args⟩

def blank (maxStack locals args : Nat) : Frame :=
  withSlots maxStack (List.replicate locals .unused) (List.replicate args .unused)

/-- The most slots a stack can have. A slot is a byte, and no block of memory has more bytes. -/
def capacity : Nat := 0x7FFFFFFFFFFFFFFF

def allocate (maxStack : Nat) (locals args : List Nullity) : Option Frame :=
  if maxStack ≤ capacity then some (withSlots maxStack locals args) else none

def push (f : Frame) (v : Nullity) : Except FrameError Frame :=
  if f.depth < f.stack.length then
    .ok { f with stack := f.stack.set f.depth v, depth := f.depth + 1 }
  else .error (.stackOverflow f.stack.length)

def peek (f : Frame) (offset : Nat) : Except FrameError Nullity :=
  if offset < f.depth then .ok (f.stack.getD (f.depth - 1 - offset) .unused)
  else .error (.stackUnderflow (offset + 1) f.depth)

def dropTop (f : Frame) : Frame :=
  { f with stack := f.stack.set (f.depth - 1) .unused, depth := f.depth - 1 }

def pop (f : Frame) : Except FrameError (Nullity × Frame) := do
  let top ← f.peek 0
  return (top, f.dropTop)

def dropTops : Nat → Frame → Frame
  | 0, f => f
  | n + 1, f => dropTops n f.dropTop

def popN (f : Frame) (count : Nat) : Except FrameError Frame :=
  if count ≤ f.depth then .ok (f.dropTops count)
  else .error (.stackUnderflow count f.depth)

def clearStack (f : Frame) : Frame :=
  { f with stack := List.replicate f.stack.length .unused, depth := 0 }

def readSlot (kind : SlotKind) (slots : List Nullity) (index : Nat) : Except FrameError Nullity :=
  match slots[index]? with
  | some v => .ok v
  | none => .error (.slotOutOfRange kind index slots.length)

def writeSlot (kind : SlotKind) (slots : List Nullity) (index : Nat) (v : Nullity) :
    Except FrameError (List Nullity) :=
  if index < slots.length then .ok (slots.set index v)
  else .error (.slotOutOfRange kind index slots.length)

def getLocal (f : Frame) (index : Nat) : Except FrameError Nullity :=
  readSlot .localVar f.locals index

def getArg (f : Frame) (index : Nat) : Except FrameError Nullity :=
  readSlot .argument f.args index

def setLocal (f : Frame) (index : Nat) (v : Nullity) : Except FrameError Frame := do
  return { f with locals := ← writeSlot .localVar f.locals index v }

def setArg (f : Frame) (index : Nat) (v : Nullity) : Except FrameError Frame := do
  return { f with args := ← writeSlot .argument f.args index v }

/-- Merges slot by slot; the deeper of the two stacks decides the depth. -/
def merge (f g : Frame) : Except FrameError Frame :=
  if f.stack.length = g.stack.length ∧ f.locals.length = g.locals.length ∧
      f.args.length = g.args.length then
    .ok {
      stack := List.zipWith Nullity.merge f.stack g.stack
      depth := max f.depth g.depth
      locals := List.zipWith Nullity.merge f.locals g.locals
      args := List.zipWith Nullity.merge f.args g.args }
  else .error .incompatibleMerge

def symbols (slots : List Nullity) : String :=
  String.ofList (slots.map Nullity.symbol)

def text (f : Frame) : String :=
  "[" ++ symbols (f.stack.take f.depth) ++ "] locals [" ++ symbols f.locals ++ "] args ["
    ++ symbols f.args ++ "]"

end Frame

end NullFlow
