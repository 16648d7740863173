namespace NullFlow

inductive Level where
  | debug | info | warn
  deriving DecidableEq

def Level.name : Level → String
  | .debug => "DEBUG"
  | .info => "INFO"
  | .warn => "WARN"

inductive Event where
  | contractsCollected (methods parameters fields : Nat)
  | unknownInstruction (method : String) (offset : Nat)
  | trace (text : String)
  | solved (method : String) (nodes edges joinPoints visits unreachable : Nat) (exit : String)
  | methodSkipped (owner method error : String)
  | finished (results methods : Nat)
  deriving DecidableEq

namespace Event

def level : Event → Level
  | .contractsCollected .. => .debug
  | .unknownInstruction .. => .debug
  | .trace _ => .info
  | .solved .. => .debug
  | .methodSkipped .. => .warn
  | .finished .. => .info

def message : Event → String
  | .contractsCollected .. => "collected non-null contracts"
  | .unknownInstruction .. => "skipping unknown instruction"
  | .trace text => text
  | .solved .. => "solved"
  | .methodSkipped owner method error => "skipping " ++ owner ++ "::" ++ method ++ ": " ++ error
  | .finished .. => "analysis finished"

def fields : Event → List (String × String)
  | .contractsCollected methods parameters fields =>
    [("methods", toString methods), ("parameters", toString parameters),
     ("fields", toString fields)]
  | .unknownInstruction method offset => [("method", method), ("offset", toString offset)]
  | .solved method nodes edges joinPoints visits unreachable exit =>
    [("method", method), ("nodes", toString nodes), ("edges", toString edges),
     ("join_points", toString joinPoints), ("visits", toString visits),
     ("unreachable", toString unreachable), ("exit", exit)]
  | .finished results methods => [("results", toString results), ("methods", toString methods)]
  | .trace _ => []
  | .methodSkipped .. => []

end Event

end NullFlow
