import NullFlow.CommandLine
import NullFlow.Endpoint
import NullFlow.Json.Printer
import NullFlow.Report
import NullFlow.Scan

namespace NullFlow

inductive RunError where
  | inputMissing (path : Path)
  | referenceMissing (path : Path)
  | noDirectory (path : Path) (cause : IoError)
  | badCollector (cause : UrlError)
  | unscanned (cause : ScanError)
  | noContracts (path : Path) (cause : IoError)
  | unwritten (path : Path) (cause : IoError)
  | unopened (path : Path) (cause : IoError)
  | oversized

def RunError.message : RunError → String
  | .inputMissing path => "input not found: " ++ path
  | .referenceMissing path => "reference not found: " ++ path
  | .noDirectory path cause => "failed to create " ++ path ++ ": " ++ cause.message
  | .badCollector cause => "parse OTLP endpoint: " ++ cause.message
  | .unscanned cause => cause.message
  | .noContracts path cause => "failed to read contract list " ++ path ++ ": " ++ cause.message
  | .unwritten path cause => "failed to write " ++ path ++ ": " ++ cause.message
  | .unopened path cause => "failed to open " ++ path ++ ": " ++ cause.message
  | .oversized => MethodError.oversized.message

structure Session where
  files : FileSystem
  events : List Event
  spans : List Span
  stdout : String
  stderr : String

/-- A step of a run. What was done before an error stays done. -/
abbrev Run := EStateM RunError Session

namespace Session

def start (files : FileSystem) : Session := ⟨files, [], [], "", ""⟩

def log (events : List Event) : Run Unit :=
  modify fun s => { s with events := s.events ++ events }

def record (spans : List Span) : Run Unit :=
  modify fun s => { s with spans := s.spans ++ spans }

def ofExcept (result : Except ε α) (error : ε → RunError) : Run α :=
  match result with
  | .ok a => return a
  | .error e => throw (error e)

def change (operation : FileSystem → Except IoError FileSystem) (error : IoError → RunError) :
    Run Unit := do
  let files ← ofExcept (operation (← get).files) error
  modify fun s => { s with files }

/-- Nothing is read before all that was named is there. -/
def prepare (o : Options) : Run Unit := do
  let files := (← get).files
  if !files.exists? o.input then throw (.inputMissing o.input)
  match o.references.find? fun path => !files.exists? path with
  | some path => throw (.referenceMissing path)
  | none => pure ()
  match o.dot with
  | some dir => change (·.createDirs dir) (.noDirectory dir)
  | none => pure ()
  match o.collector with
  | some url => discard (ofExcept (Endpoint.ofText url) .badCollector)
  | none => pure ()

def scan (o : Options) : Run Scan := do
  let scanned := Scan.run Archive.reader (← get).files o.input o.references
  record scanned.log
  ofExcept scanned.result .unscanned

def collect (o : Options) (s : Scan) : Run Contracts := do
  let table := Contracts.collect (s.subjects.map (·.assembly) ++ s.references) o.marker
  log [.contractsCollected table.methods.length table.parameters.length table.fields.length]
  o.contracts.foldlM (fun table path => do
    let text ← ofExcept ((← get).files.readText path) (.noContracts path)
    return table.addList text) table

def draw (dir : Option Path) (m : MethodRun) : Run Unit :=
  match dir, m.drawing with
  | some dir, some (name, text) =>
    let path := dir.join name
    change (·.write path (Text.encode text)) (.unwritten path)
  | _, _ => pure ()

def inspectMethod (dir : Option Path) (m : MethodRun) : Run Unit := do
  draw dir m
  log m.events
  if m.isFatal then throw .oversized

/-- Goes through the methods of a type. Those that were looked at are in the type's span, also when the
run ends in one of them. -/
def inspectMethods (dir : Option Path) (r : TypeRun) : List MethodRun → List MethodRun → Run Unit
  | done, [] => record [r.span done]
  | done, m :: rest => do
    try inspectMethod dir m
    catch e =>
      record [r.span done]
      throw e
    inspectMethods dir r (done ++ [m]) rest

def inspectTypes (dir : Option Path) (runs : List TypeRun) : Run Unit := do
  try runs.forM fun r => inspectMethods dir r [] r.methods
  catch e =>
    record [Span.rule Rule.nullDereference.id]
    throw e
  record [Span.rule Rule.nullDereference.id]

def inspect (dir : Option Path) (i : Inspection) : Run (List Result) := do
  inspectTypes dir i.runs
  return i.results

structure Analysis where
  results : List Result
  totals : Report.Totals

def analyze (o : Options) (s : Scan) : Run Analysis := do
  let contracts ← collect o s
  record [Span.artifacts]
  let results ← inspect o.dot ⟨s.subjects, contracts, s.artifacts, o.trace⟩
  return ⟨results, s.artifacts.length, s.methodCount, contracts.size⟩

def print (text : String) : Run Unit :=
  modify fun s => { s with stdout := s.stdout ++ text }

def printError (text : String) : Run Unit :=
  modify fun s => { s with stderr := s.stderr ++ text }

def writeReport (output : Option Path) (text : String) : Run Unit :=
  match output with
  | none => print text
  | some path =>
    if path.same "-" then print text
    else change (·.write path (Text.encode text)) (.unopened path)

def timingText (totals : Report.Totals) (call : Report.Call) : String :=
  "timing: total_ms=" ++ toString call.totalMs ++ " scan_ms=" ++ toString call.scanMs ++
    " analysis_ms=" ++ toString call.analysisMs ++ " methods=" ++ toString totals.methods ++
    " artifacts=" ++ toString totals.artifacts ++ "\n"

def finish (o : Options) (call : Report.Call) (s : Scan) (a : Analysis) : Run Unit := do
  if !o.quiet then log [.finished a.results.length a.totals.methods]
  writeReport o.output ((Report.document s.artifacts a.results a.totals call).pretty "" ++ "\n")
  if o.timing && !o.quiet then printError (timingText a.totals call)

def runPrepared (o : Options) (call : Report.Call) : Run Unit := do
  let s ← scan o
  finish o call s (← analyze o s)

def run (o : Options) (call : Report.Call) : Run Unit := do
  prepare o
  runPrepared o call

end Session

end NullFlow
