namespace NullFlow

abbrev SpanAttributes := List (String × String)

structure SpanEvent where
  name : String
  attributes : SpanAttributes
  deriving DecidableEq

structure Span where
  name : String
  parent : Option String
  attributes : SpanAttributes
  events : List SpanEvent
  deriving DecidableEq

namespace Span

def scan (path : String) (entry : Option String) : Span :=
  ⟨"assembly.scan", none,
    ("ilnull.path", path) :: (entry.map fun name => ("ilnull.zip_entry", name)).toList, []⟩

def artifacts : Span :=
  ⟨"artifact_analysis", none, [("ilnull.phase", "artifact_analysis")], []⟩

def ruleName (rule : String) : String := "rule:" ++ rule

def rule (id : String) : Span :=
  ⟨ruleName id, none, [("ilnull.rule_id", id)], []⟩

/-- A span keeps no more events than these; later ones are dropped. -/
def maxEvents : Nat := 128

def type (rule assembly name : String) (uri : Option String) (events : List SpanEvent) : Span :=
  ⟨"scan.type", some (ruleName rule),
    [("ilnull.assembly", assembly), ("ilnull.type", name)] ++
      (uri.map fun uri => ("ilnull.artifact_uri", uri)).toList,
    events.take maxEvents⟩

def methodAborted (method error : String) : SpanEvent :=
  ⟨"ilnull.method_aborted", [("ilnull.method", method), ("ilnull.error", error)]⟩

end Span

end NullFlow
