import NullFlow.Inspection
import NullFlow.Json.Basic

namespace NullFlow.Report

def toolName : String := "ilnull"

def toolVersion : String := "0.1.0"

def schemaUri : String := "https://schemastore.azurewebsites.net/schemas/json/sarif-2.1.0.json"

def rule (r : Rule) : Json :=
  .object [("id", .string r.id), ("name", .string r.name),
    ("shortDescription", .object [("text", .string r.description)])]

def location (r : Result) : Json :=
  let logical := ("logicalLocations",
    Json.array [.object [("kind", .string "function"), ("name", .string r.location)]])
  let physical := r.uri.toList.map fun uri => ("physicalLocation",
    Json.object [("artifactLocation", .object [("uri", .string uri)]),
      ("region", .object [("byteOffset", .nat r.finding.offset)])])
  .object (logical :: physical)

def result (r : Result) : Json :=
  .object [("locations", .array [location r]),
    ("message", .object [("text", .string r.finding.message)]),
    ("properties", .object [("confidence", .string "low"), ("ilOffset", .nat r.finding.offset),
      ("severity", .string "high")]),
    ("ruleId", .string r.rule)]

def artifact (a : Artifact) : Json :=
  .object <|
    (a.length.toList.map fun n => ("length", Json.nat n)) ++
    (a.uri.toList.map fun uri => ("location", Json.object [("uri", .string uri)])) ++
    (a.parent.toList.map fun p => ("parentIndex", Json.int p)) ++
    if a.isTarget then [("roles", .strings ["analysisTarget"])] else []

structure Call where
  arguments : List String
  scanMs : Nat
  analysisMs : Nat
  totalMs : Nat

structure Totals where
  artifacts : Nat
  methods : Nat
  contracts : Nat

def invocation (totals : Totals) (call : Call) : Json :=
  .object [("arguments", .strings call.arguments),
    ("commandLine", .string (" ".intercalate call.arguments)),
    ("executionSuccessful", .bool true),
    ("properties", .object [("ilnull.analysis_ms", .nat call.analysisMs),
      ("ilnull.artifact_count", .nat totals.artifacts),
      ("ilnull.contract_count", .nat totals.contracts),
      ("ilnull.method_count", .nat totals.methods), ("ilnull.scan_ms", .nat call.scanMs)])]

def document (artifacts : List Artifact) (results : List Result) (totals : Totals)
    (call : Call) : Json :=
  let driver := Json.object [("name", .string toolName),
    ("rules", .array [rule Rule.nullDereference]), ("version", .string toolVersion)]
  let listed := if artifacts.isEmpty then []
    else [("artifacts", Json.array (artifacts.map artifact))]
  .object [("$schema", .string schemaUri),
    ("runs", .array [.object (listed ++ [("invocations", .array [invocation totals call]),
      ("results", .array (results.map result)), ("tool", .object [("driver", driver)])])]),
    ("version", .string "2.1.0")]

end NullFlow.Report
