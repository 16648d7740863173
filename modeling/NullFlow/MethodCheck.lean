import NullFlow.MethodAnalysis
import NullFlow.Graph.Drawing
import NullFlow.Event
import NullFlow.Logged

namespace NullFlow

/-- Why the analysis of a method ends early. Where no frame can be made the whole run ends with it; for
any other reason the method is skipped. -/
inductive MethodError where
  | graph (cause : GraphError)
  | flow (scope : Scope) (cause : FlowError)
  | oversized

namespace MethodError

def message : MethodError → String
  | .graph cause => cause.message
  | .flow scope cause => "analyzing " ++ scope.fullName ++ ": " ++ scope.describe cause
  | .oversized => "capacity overflow"

def frameError? : MethodError → Option FrameError
  | .flow _ cause => cause.frameError?
  | _ => none

end MethodError

namespace Scope

def unknownEvents (s : Scope) (instructions : List Instruction) : List Event :=
  (instructions.filter (·.opcode = .unknown)).map fun i => .unknownInstruction s.fullName i.offset

def visitEvents (s : Scope) (g : Graph) (node : Nat) : List Event :=
  match g.nodes[node]? with
  | some (.block b) => s.unknownEvents (b.instructions s.body)
  | _ => []

def failureEvents (s : Scope) (g : Graph) : FlowError → List Event
  | .step index _ _ =>
    match g.blocks.find? fun b => b.first ≤ index && index ≤ b.last with
    | some b => s.unknownEvents ((b.instructions s.body).take (index - b.first))
    | none => []
  | _ => []

def tracedEvents (s : Scope) : List Instruction → Frame → List Event
  | [], _ => []
  | i :: rest, f =>
    match s.step i f with
    | .error _ => []
    | .ok (f, _) =>
      s.unknownEvents [i] ++ .trace ("  " ++ i.text ++ " -> " ++ f.text) :: tracedEvents s rest f

def reportEvents (s : Scope) (g : Graph) (trace : Bool) (facts : List Frame) (node : Nat) :
    List Event :=
  match g.nodes[node]?, trace with
  | some (.block b), true =>
    let f := facts.getD node s.unreached
    .trace ("block " ++ b.label s.body ++ " in " ++ f.text) ::
      s.tracedEvents (b.instructions s.body) f
  | _, _ => s.visitEvents g node

def solvedEvent (s : Scope) (g : Graph) (solution : Solution) : Event :=
  .solved s.fullName g.nodes.length g.edges.length g.joinPoints solution.visits
    ((List.range g.nodes.length).countP fun n => !solution.reached n)
    (solution.facts.getD Graph.exit s.unreached).text

def openingEvents (s : Scope) (g : Graph) (trace : Bool) : List Event :=
  if trace then [.trace (s.fullName ++ "\n" ++ g.listingText s.body)] else []

def check (s : Scope) (g : Graph) (trace : Bool) : Logged Event MethodError (List Finding) :=
  let opening := s.openingEvents g trace
  match s.solve g with
  | .error failure =>
    { log := opening ++ failure.trail.reverse.flatMap (s.visitEvents g) ++
        s.failureEvents g failure.cause
      result := .error (.flow s failure.cause) }
  | .ok solution =>
    let nodes := (List.range g.nodes.length).filter solution.reached
    { log := opening ++ solution.trail.reverse.flatMap (s.visitEvents g) ++
        nodes.flatMap (s.reportEvents g trace solution.facts) ++ [s.solvedEvent g solution]
      result := .ok (Finding.sort solution.findings) }

/-- Analyzes a method whose graph is built. The first frame made is that of its entry. -/
def examine (s : Scope) (g : Graph) (trace : Bool) : Logged Event MethodError (List Finding) :=
  match s.entry? with
  | none => ⟨s.openingEvents g trace, .error .oversized⟩
  | some _ => s.check g trace

end Scope

end NullFlow
