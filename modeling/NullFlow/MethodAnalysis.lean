import NullFlow.Dataflow
import NullFlow.Graph
import NullFlow.Step

namespace NullFlow

/-- Why a method cannot be analyzed: an instruction fails, there is no room for a caught exception,
or frames do not fit together. -/
inductive FlowError where
  | step (index : Nat) (instruction : Instruction) (cause : StepError)
  | caught (cause : FrameError)
  | merge (cause : FrameError)
  deriving DecidableEq

def FlowError.frameError? : FlowError → Option FrameError
  | .step _ _ cause => cause.frameError?
  | .caught cause => some cause
  | .merge cause => some cause

def Block.instructions (b : Block) (body : MethodBody) : List Instruction :=
  (body.instructions.drop b.first).take (b.last + 1 - b.first)

namespace Scope

def describe (s : Scope) : FlowError → String
  | .step _ i cause =>
    Offset.label i.offset ++ ": " ++ i.opcode.mnemonic ++ " in " ++ s.fullName ++ ": "
      ++ cause.message
  | .caught cause => "no stack slot for the caught exception: " ++ cause.message
  | .merge cause => cause.message

def unreached (s : Scope) : Frame :=
  .blank s.body.maxStack s.body.locals.length s.method.argCount

/-- The receiver is never null, and neither are parameters declared so. -/
def entryArgs (s : Scope) : List Nullity :=
  (if s.method.hasThis then [.nonNull] else []) ++
    (List.range s.method.parameters.length).map fun index =>
      if s.contracts.parameter s.fullName index then .nonNull else .unknown

/-- The state when the method starts. The runtime clears locals, so they hold null. -/
def entry (s : Scope) : Frame :=
  .withSlots s.body.maxStack (List.replicate s.body.locals.length .null) s.entryArgs

def entry? (s : Scope) : Option Frame :=
  Frame.allocate s.body.maxStack (List.replicate s.body.locals.length .null) s.entryArgs

def caught (s : Scope) : Except FrameError Frame :=
  s.entry.push .nonNull

def seed (s : Scope) : Node → Except FlowError Frame
  | .entry => .ok s.entry
  | .exit => .ok s.unreached
  | .block _ => .ok s.unreached
  | .exception _ receives =>
    if receives then s.caught.mapError .caught else .ok s.entry

def execute (s : Scope) : Nat → List Instruction → Frame → Except FlowError (Frame × List Finding)
  | _, [], f => .ok (f, [])
  | index, i :: rest, f =>
    match s.step i f with
    | .error cause => .error (.step index i cause)
    | .ok (f, issues) => do
      let (f, findings) ← execute s (index + 1) rest f
      return (f, issues.map (Finding.mk i.offset) ++ findings)

def executeNode (s : Scope) (node : Node) (f : Frame) : Except FlowError (Frame × List Finding) :=
  match node with
  | .block b => s.execute b.first (b.instructions s.body) f
  | _ => .ok (f, [])

/-- What of a frame reaches a node: the stack is lost when an exception is thrown. -/
def arrive (node : Node) (f : Frame) : Frame :=
  match node with
  | .exception _ _ => f.clearStack
  | _ => f

def dataflow (s : Scope) (g : Graph) : Dataflow Frame FlowError where
  size := g.nodes.length
  successors := g.successors
  seed n := s.seed (g.nodes.getD n .exit)
  transfer n f := (s.executeNode (g.nodes.getD n .exit) f).map (·.1)
  enter n f := arrive (g.nodes.getD n .exit) f
  merge f g := (f.merge g).mapError .merge

def slots (s : Scope) : Nat :=
  s.body.maxStack + s.body.locals.length + s.method.argCount

/-- How often the frame of a node can change: each slot can rise twice, and the stack can deepen. -/
def height (s : Scope) : Nat :=
  2 * s.slots + s.body.maxStack

end Scope

/-- The frames on entry to each node, the visited nodes, and what one more execution of each of them
reports. -/
structure Solution where
  facts : List Frame
  trail : List Nat
  findings : List Finding
  deriving DecidableEq

namespace Solution

def reached (s : Solution) (node : Nat) : Bool :=
  s.trail.contains node

def visits (s : Solution) : Nat :=
  s.trail.length

end Solution

namespace Scope

def report (s : Scope) (g : Graph) (state : Dataflow.State Frame) :
    Except FlowError (List Finding) := do
  let nodes := (List.range g.nodes.length).filter state.reached
  let reports ← nodes.mapM fun n => do
    let (_, findings) ← s.executeNode (g.nodes.getD n .exit) (state.facts.getD n s.unreached)
    return findings
  return reports.flatten

def solve (s : Scope) (g : Graph) : Except (Dataflow.Failure FlowError) Solution := do
  let state ← (s.dataflow g).solve s.height
  match s.report g state with
  | .error cause => throw ⟨state.trail, cause⟩
  | .ok findings => return ⟨state.facts, state.trail, findings⟩

end Scope

end NullFlow
