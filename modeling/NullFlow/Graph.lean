import NullFlow.Metadata
import NullFlow.Offset

namespace NullFlow

structure Block where
  first : Nat
  last : Nat
  deriving DecidableEq

/-- An exception node stands for control entering a handler, or its filter, when something in the
protected region throws. -/
inductive Node where
  | entry
  | exit
  | block (b : Block)
  | exception (handler : Nat) (receives : Bool)
  deriving DecidableEq

inductive EdgeKind where
  | entry | fallThrough | branch | ret | exception
  deriving DecidableEq

def EdgeKind.rank : EdgeKind → Nat
  | .entry => 0
  | .fallThrough => 1
  | .branch => 2
  | .ret => 3
  | .exception => 4

structure Edge where
  source : Nat
  target : Nat
  kind : EdgeKind
  deriving DecidableEq

namespace Edge

def before (a b : Edge) : Bool :=
  a.source < b.source ||
    (a.source == b.source && (a.target < b.target ||
      (a.target == b.target && a.kind.rank < b.kind.rank)))

def insert (e : Edge) : List Edge → List Edge
  | [] => [e]
  | d :: ds => if e.before d then e :: d :: ds else if e = d then d :: ds else d :: insert e ds

def sort (edges : List Edge) : List Edge :=
  edges.foldr insert []

end Edge

/-- An offset that should be an instruction's and is not, as a branch names it or as it is looked up for
an edge. -/
inductive GraphError where
  | branch (source target : Nat)
  | missing (offset : Nat)
  deriving DecidableEq

def GraphError.message : GraphError → String
  | .branch source target =>
    "branch at " ++ Offset.label source ++ " targets missing offset " ++ Offset.label target
  | .missing offset => "no instruction at offset " ++ Offset.label offset

namespace MethodBody

/-- The index of the instruction at an offset, of several the last. -/
def indexOf? (body : MethodBody) (offset : Nat) : Option Nat :=
  go 0 body.instructions
where
  go (index : Nat) : List Instruction → Option Nat
    | [] => none
    | i :: rest => (go (index + 1) rest).or (if i.offset = offset then some index else none)

def branchIndex (body : MethodBody) (source target : Nat) : Except GraphError Nat :=
  match body.indexOf? target with
  | some index => .ok index
  | none => .error (.branch source target)

/-- The indices where blocks start because of one instruction: its branch targets, and the next if it ends
a block. -/
def leadersOf (body : MethodBody) (i : Instruction) (index : Nat) : Except GraphError (List Nat) := do
  let targets ← i.operand.branchTargets.mapM (body.branchIndex i.offset)
  let next := if i.opcode.splitsBlock ∧ index + 1 < body.instructions.length then [index + 1] else []
  return targets ++ next

def boundaries (h : ExceptionHandler) : List Nat :=
  [h.tryStart, h.tryEnd, h.handlerStart, h.handlerEnd] ++ h.filterStart.toList

/-- The indices where blocks start, in order and each once. A region may border on no instruction, since
its end can lie behind the last one. -/
def findLeaders (body : MethodBody) : Except GraphError (List Nat) := do
  if body.instructions.isEmpty then return []
  let led ← body.instructions.zipIdx.mapM fun (i, index) => body.leadersOf i index
  let bordered := body.handlers.flatMap fun h => (boundaries h).filterMap body.indexOf?
  return (List.range body.instructions.length).filter (0 :: led.flatten ++ bordered).contains

def blocksFrom (stop : Nat) : List Nat → List Block
  | [] => []
  | [first] => [⟨first, stop - 1⟩]
  | first :: next :: rest => ⟨first, next - 1⟩ :: blocksFrom stop (next :: rest)

/-- The ways into handlers, in the order of the table: the handler's index and the offset where
control enters. A filter is entered before the handler it belongs to decides. -/
def handlerEntries (body : MethodBody) : List (Nat × ExceptionHandler × Nat) :=
  body.handlers.zipIdx.flatMap fun (h, index) =>
    (index, h, h.handlerStart) :: (h.filterStart.map fun start => (index, h, start)).toList

end MethodBody

structure Graph where
  nodes : List Node
  edges : List Edge
  deriving DecidableEq

namespace Graph

def entry : Nat := 0

def exit : Nat := 1

def firstBlock : Nat := 2

def nodeOf (blocks : List Block) (index : Nat) : Nat :=
  firstBlock + blocks.findIdx fun b => b.first ≤ index && index ≤ b.last

def nodeAt (body : MethodBody) (blocks : List Block) (offset : Nat) : Except GraphError Nat :=
  match body.indexOf? offset with
  | some index => .ok (nodeOf blocks index)
  | none => .error (.missing offset)

/-- The edge on which control leaves a block other than by a branch: to the next instruction unless
control ends here, and to the exit when it returns. The end of a finally handler goes on behind it. -/
def onwardEdges (body : MethodBody) (blocks : List Block) (node : Nat) (b : Block)
    (last : Instruction) : List Edge :=
  let next := if b.last + 1 < body.instructions.length
    then some (nodeOf blocks (b.last + 1)) else none
  let forward := next.toList.map fun target => Edge.mk node target .fallThrough
  if !last.opcode.endsFlow then forward
  else if last.opcode.flow = .ret then
    if last.opcode = .endfinally ∧ next.isSome then forward else [Edge.mk node exit .ret]
  else []

def edgesFrom (body : MethodBody) (blocks : List Block) (node : Nat) (b : Block) :
    Except GraphError (List Edge) :=
  match body.instructions[b.last]? with
  | none => return []
  | some last => do
    let branches ← last.operand.branchTargets.mapM fun target => do
      return Edge.mk node (← nodeAt body blocks target) .branch
    return onwardEdges body blocks node b last ++ branches

/-- The edges into an exception node from the blocks that start in the protected region. -/
def inwardEdges (body : MethodBody) (blocks : List Block) (node : Nat) (h : ExceptionHandler) :
    List Edge :=
  blocks.zipIdx.filterMap fun (b, k) =>
    if body.instructions[b.first]?.any fun i => h.protects i.offset
    then some (Edge.mk (firstBlock + k) node .exception) else none

def edgesThrough (body : MethodBody) (blocks : List Block) (node : Nat) (h : ExceptionHandler)
    (start : Nat) : Except GraphError (List Edge) := do
  let target ← nodeAt body blocks start
  return Edge.mk node target .exception :: inwardEdges body blocks node h

def ofBlocks (body : MethodBody) (blocks : List Block) : Except GraphError Graph := do
  let entries := body.handlerEntries
  let firstHandler := firstBlock + blocks.length
  let start := if body.instructions.isEmpty then [] else [Edge.mk entry (nodeOf blocks 0) .entry]
  let flow ← blocks.zipIdx.mapM fun (b, k) => edgesFrom body blocks (firstBlock + k) b
  let handlers ← entries.zipIdx.mapM fun ((_, h, offset), k) =>
    edgesThrough body blocks (firstHandler + k) h offset
  return {
    nodes := .entry :: .exit :: blocks.map .block ++
      entries.map fun (index, h, _) => .exception index h.kind.receivesException
    edges := Edge.sort (start ++ flow.flatten ++ handlers.flatten) }

def ofBody (body : MethodBody) : Except GraphError Graph := do
  let leaders ← body.findLeaders
  ofBlocks body (MethodBody.blocksFrom body.instructions.length leaders)

def squeeze : List Nat → List Nat
  | [] => []
  | [a] => [a]
  | a :: b :: rest => if a = b then squeeze (b :: rest) else a :: squeeze (b :: rest)

def successors (g : Graph) (node : Nat) : List Nat :=
  squeeze ((g.edges.filter (·.source = node)).map (·.target))

def predecessors (g : Graph) (node : Nat) : List Nat :=
  squeeze ((g.edges.filter (·.target = node)).map (·.source))

def blocks (g : Graph) : List Block :=
  g.nodes.filterMap fun
    | .block b => some b
    | _ => none

def joinPoints (g : Graph) : Nat :=
  ((List.range g.nodes.length).filter fun n => 1 < (g.predecessors n).length).length

end Graph

end NullFlow
