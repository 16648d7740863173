import NullFlow.Artifact
import NullFlow.MethodCheck
import NullFlow.Span

namespace NullFlow

structure Rule where
  id : String
  name : String
  description : String

def Rule.nullDereference : Rule where
  id := "NULL_DEREF"
  name := "Null dereference"
  description := "Null values must not be dereferenced nor flow into members declared non-null"

/-- An assembly with the number of the artifact it was read from, `-1` for none. -/
structure Subject where
  assembly : Assembly
  artifact : Int

/-- A finding with the method it was made in and the artifact that method was read from. -/
structure Result where
  rule : String
  owner : String
  method : String
  uri : Option String
  finding : Finding
  deriving DecidableEq

namespace Result

def location (r : Result) : String := r.owner ++ "::" ++ r.method

def before (a b : Result) : Bool :=
  a.rule < b.rule || (a.rule == b.rule &&
    (a.location < b.location || (a.location == b.location && a.finding.before b.finding)))

def insert (r : Result) : List Result → List Result
  | [] => [r]
  | s :: rest =>
    if r.before s then r :: s :: rest else if s.before r then s :: insert r rest else s :: rest

/-- The results in order. Of those that read the same the first is kept. -/
def sort (results : List Result) : List Result :=
  results.foldl (fun sorted r => insert r sorted) []

end Result

def fileStem (name : String) : String :=
  name.map fun c => if c.isAlphanum || c == '.' || c == '-' || c == '_' then c else '_'

structure Inspection where
  subjects : List Subject
  contracts : Contracts
  artifacts : List Artifact
  trace : Bool

/-- One method looked at: the drawing of its graph, by file name, and what the analysis found. The
drawing is there whenever the graph is. -/
structure MethodRun where
  owner : String
  method : String
  drawing : Option (String × String)
  checked : Logged Event MethodError (List Finding)

structure TypeRun where
  assembly : String
  type : String
  uri : Option String
  methods : List MethodRun

namespace MethodRun

def findings (r : MethodRun) : List Finding :=
  match r.checked.result with
  | .ok findings => findings
  | .error _ => []

def isFatal (r : MethodRun) : Bool :=
  match r.checked.result with
  | .error .oversized => true
  | _ => false

def events (r : MethodRun) : List Event :=
  r.checked.log ++ match r.checked.result with
    | .ok _ => []
    | .error .oversized => []
    | .error e => [.methodSkipped r.owner r.method e.message]

def spanEvents (r : MethodRun) : List SpanEvent :=
  match r.checked.result with
  | .ok _ => []
  | .error e => [Span.methodAborted r.method e.message]

end MethodRun

namespace TypeRun

def results (r : TypeRun) : List Result :=
  r.methods.flatMap fun m =>
    m.findings.map fun f => ⟨Rule.nullDereference.id, r.type, m.method, r.uri, f⟩

def span (r : TypeRun) (methods : List MethodRun) : Span :=
  Span.type Rule.nullDereference.id r.assembly r.type r.uri (methods.flatMap MethodRun.spanEvents)

end TypeRun

namespace Inspection

def isTarget (i : Inspection) (s : Subject) : Bool :=
  Artifact.analyzed i.artifacts s.artifact

def uri? (i : Inspection) (s : Subject) : Option String :=
  Artifact.uriAt? i.artifacts s.artifact

/-- Every type of the targets with its assembly, in document order. -/
def types (i : Inspection) : List (Subject × TypeDef) :=
  (i.subjects.filter i.isTarget).flatMap fun s => s.assembly.types.map fun t => (s, t)

def runMethod (i : Inspection) (t : TypeDef) (m : MethodDef) : Option MethodRun :=
  m.body.map fun body =>
    let name := t.fullName ++ "." ++ m.name
    match Graph.ofBody body with
    | .error e => ⟨t.fullName, m.name, none, ⟨[], .error (.graph e)⟩⟩
    | .ok g =>
      { owner := t.fullName
        method := m.name
        drawing := some (fileStem name ++ ".dot", g.dot name body)
        checked := Scope.examine ⟨t.fullName, m, body, i.contracts⟩ g i.trace }

def runType (i : Inspection) (s : Subject) (t : TypeDef) : TypeRun :=
  ⟨s.assembly.name, t.fullName, i.uri? s, t.methods.filterMap (i.runMethod t)⟩

def runs (i : Inspection) : List TypeRun :=
  i.types.map fun (s, t) => i.runType s t

def results (i : Inspection) : List Result :=
  Result.sort (i.runs.flatMap TypeRun.results)

def events (i : Inspection) : List Event :=
  i.runs.flatMap fun r => r.methods.flatMap MethodRun.events

end Inspection

end NullFlow
