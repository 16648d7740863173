namespace NullFlow

/-- A data-flow problem on the nodes `0, …, size - 1`. The fact of a node describes the state on
entry to it, and `transfer` turns that into the state on exit, of which `enter` keeps what reaches
a given successor. -/
structure Dataflow (F E : Type) where
  size : Nat
  successors : Nat → List Nat
  seed : Nat → Except E F
  transfer : Nat → F → Except E F
  enter : Nat → F → F
  merge : F → F → Except E F

namespace Dataflow

/-- `trail` holds the visited nodes, the latest first. -/
structure State (F : Type) where
  facts : List F
  queue : List Nat
  trail : List Nat

structure Failure (E : Type) where
  trail : List Nat
  cause : E

def State.reached (s : State F) (node : Nat) : Bool :=
  s.trail.contains node

def State.visits (s : State F) : Nat :=
  s.trail.length

variable {F E : Type} [DecidableEq F]

def seeds (p : Dataflow F E) : Except E (List F) :=
  (List.range p.size).mapM p.seed

def start (facts : List F) : State F :=
  ⟨facts, [0], []⟩

/-- Merges what leaves a node into the fact of a successor, which has to be visited if its fact
changed or if it never was. -/
def send (p : Dataflow F E) (out : F) (s : State F) (target : Nat) : Except E (State F) :=
  match s.facts[target]? with
  | none => .ok s
  | some fact => do
    let merged ← p.merge fact (p.enter target out)
    let due := (merged ≠ fact ∨ !s.reached target) ∧ target ∉ s.queue
    return { s with
      facts := s.facts.set target merged
      queue := if due then s.queue ++ [target] else s.queue }

def visit (p : Dataflow F E) (s : State F) (node : Nat) : Except (Failure E) (State F) :=
  match s.facts[node]? with
  | none => .ok { s with queue := s.queue.erase node }
  | some fact =>
    match p.transfer node fact with
    | .error cause => .error ⟨s.trail, cause⟩
    | .ok out =>
      let s := { s with queue := s.queue.erase node, trail := node :: s.trail }
      match (p.successors node).foldlM (p.send out) s with
      | .error cause => .error ⟨s.trail, cause⟩
      | .ok s => .ok s

def iterate (p : Dataflow F E) : Nat → State F → Except (Failure E) (State F)
  | 0, s => .ok s
  | fuel + 1, s =>
    match s.queue with
    | [] => .ok s
    | node :: _ => do iterate p fuel (← p.visit s node)

/-- Runs from the seeds; `height` bounds how often the fact of one node can change. -/
def solve (p : Dataflow F E) (height : Nat) : Except (Failure E) (State F) :=
  match p.seeds with
  | .error cause => .error ⟨[], cause⟩
  | .ok facts => p.iterate (p.size * (height + 1)) (start facts)

end Dataflow

end NullFlow
