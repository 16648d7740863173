import NullFlow.Graph
import NullFlow.MemberName
import NullFlow.Binary64.Shortest

namespace NullFlow

def Operand.text : Operand → String
  | .none => ""
  | .int value => s!" {value}"
  | .float value => " " ++ value.plainText
  | .string value => " \"" ++ value ++ "\""
  | .localVar index => s!" V_{index}"
  | .arg index => s!" A_{index}"
  | .target offset => " " ++ Offset.label offset
  | .targets offsets => String.join (offsets.map fun offset => " " ++ Offset.label offset)
  | .method ref => " " ++ ref.fullName
  | .signature ref => " " ++ ref.fullName
  | .field ref => " " ++ ref.fullName
  | .type ref => " " ++ ref.fullName

def Instruction.text (i : Instruction) : String :=
  Offset.label i.offset ++ ": " ++ i.opcode.mnemonic ++ i.operand.text

def EdgeKind.label : EdgeKind → String
  | .entry => "entry"
  | .fallThrough => "forward"
  | .branch => "branch"
  | .ret => "return"
  | .exception => "exception"

def Block.label (b : Block) (body : MethodBody) : String :=
  let offsetAt (index : Nat) : String :=
    match body.instructions[index]? with
    | some i => Offset.label i.offset
    | none => ""
  offsetAt b.first ++ "-" ++ offsetAt b.last

def Node.label (body : MethodBody) : Node → String
  | .entry => "entry"
  | .exit => "exit"
  | .block b => b.label body
  | .exception handler _ => s!"exception#{handler}"

namespace Graph

def quoteFree (name : String) : String :=
  name.map fun c => if c = '"' then '\'' else c

def dot (g : Graph) (name : String) (body : MethodBody) : String :=
  let nodes := g.nodes.zipIdx.map fun (node, id) =>
    s!"    n{id} [ label = \"" ++ node.label body ++ "\" ];\n"
  let edges := g.edges.map fun e =>
    "    n" ++ toString e.source ++ " -> n" ++ toString e.target ++ " [ label = \""
      ++ e.kind.label ++ "\" ];\n"
  "digraph \"" ++ quoteFree name ++ "\" \x7b\n" ++ String.join nodes ++ String.join edges ++ "\x7d\n"

def marks (count : Nat) (line : String) : List String :=
  List.replicate count line

/-- The lines of one instruction: the regions that open before it, the instruction with a star if it
starts a block, and the regions that close before the next. -/
def listingAt (g : Graph) (body : MethodBody) (index : Nat) (i : Instruction) : List String :=
  let starts (f : ExceptionHandler → Nat) := body.handlers.countP fun h => f h == i.offset
  let ends (f : ExceptionHandler → Nat) := match body.instructions[index + 1]? with
    | some next => body.handlers.countP fun h => f h == next.offset
    | none => 0
  let mark := if g.blocks.any (·.first == index) then "*   " else "    "
  marks (starts (·.tryStart)) "Try \x7b\n" ++ marks (starts (·.handlerStart)) "Handle \x7b\n"
    ++ [mark ++ i.text ++ "\n"]
    ++ marks (ends (·.tryEnd)) "\x7d (Try)\n" ++ marks (ends (·.handlerEnd)) "\x7d (Handle)\n"

def listing (g : Graph) (body : MethodBody) : List String :=
  body.instructions.zipIdx.flatMap fun (i, index) => g.listingAt body index i

def listingText (g : Graph) (body : MethodBody) : String :=
  String.join (g.listing body)

end Graph

end NullFlow
