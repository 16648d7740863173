import NullFlow.MemberName
import NullFlow.NameSet
import NullFlow.Text.Blank

namespace NullFlow

/-- The methods that never return null, and the parameters and fields that never hold it, by full
name. -/
structure Contracts where
  methods : NameSet
  parameters : NameSet
  fields : NameSet
  deriving DecidableEq

inductive Contract where
  | method (name : String)
  | parameter (key : String)
  | field (name : String)
  deriving DecidableEq

namespace Contracts

def defaultMarker : String :=
  "System.Void Gendarme.Framework.NonNullAttribute::.ctor()"

def empty : Contracts := ⟨[], [], []⟩

def insert (table : Contracts) : Contract → Contracts
  | .method name => { table with methods := NameSet.insert name table.methods }
  | .parameter key => { table with parameters := NameSet.insert key table.parameters }
  | .field name => { table with fields := NameSet.insert name table.fields }

def insertAll (table : Contracts) (contracts : List Contract) : Contracts :=
  contracts.foldl insert table

def ofMethod (marker owner : String) (m : MethodDef) : List Contract :=
  let name := m.fullName owner
  let parameters := m.parameters.zipIdx.filterMap fun (p, index) =>
    if p.attributes.has marker then some (.parameter (MemberName.parameter name index)) else none
  parameters ++ if m.attributes.has marker then [.method name] else []

def ofField (marker owner : String) (f : FieldDef) : List Contract :=
  if f.attributes.has marker then [.field (f.fullName owner)] else []

def ofType (marker : String) (t : TypeDef) : List Contract :=
  t.methods.flatMap (ofMethod marker t.fullName) ++ t.fields.flatMap (ofField marker t.fullName)

def collect (assemblies : List Assembly) (marker : String) : Contracts :=
  empty.insertAll (assemblies.flatMap fun a => a.types.flatMap (ofType marker))

/-- The declaration on one line of a contract list, told from its shape: a parameter has a slash, a
method a parenthesis. Blank lines and remarks declare nothing. -/
def ofLine (line : List Char) : Option Contract :=
  let entry := Text.trim line
  let name := String.ofList entry
  if entry.isEmpty ∨ entry.head? = some '#' then none
  else if entry.contains '/' then some (.parameter name)
  else if entry.contains '(' then some (.method name)
  else some (.field name)

def addList (table : Contracts) (text : String) : Contracts :=
  table.insertAll ((Text.lines text.toList).filterMap ofLine)

def method (table : Contracts) (name : String) : Bool :=
  table.methods.contains name

def parameter (table : Contracts) (method : String) (index : Nat) : Bool :=
  table.parameters.contains (MemberName.parameter method index)

def field (table : Contracts) (name : String) : Bool :=
  table.fields.contains name

def size (table : Contracts) : Nat :=
  table.methods.length + table.parameters.length + table.fields.length

end Contracts

end NullFlow
