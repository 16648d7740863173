import NullFlow.Session

namespace NullFlow

/-- What lies at a path. Contents are left out where only the names matter. -/
partial def readTree (contents : Bool) (path : Path) : IO FileTree := do
  let place ← IO.FS.realPath path
  if ← place.isDir then
    let mut entries := []
    for entry in ← place.readDir do
      entries := (entry.fileName, ← readTree contents (path.join entry.fileName)) :: entries
    return .dir entries
  else if contents then return .file (← IO.FS.readBinFile path).toList
  else return .file []

def addTree (contents : Bool) (fs : FileSystem) (path : Path) : IO FileSystem := do
  if fs.exists? path then return fs
  try return fs.place (fs.locate path) (← readTree contents path)
  catch _ => return fs

def addParent (fs : FileSystem) (path : Path) : IO FileSystem := do
  let parent := "/" ++ "/".intercalate (Path.withoutParents (fs.locate path).dropLast)
  if fs.exists? parent then return fs
  try
    if ← (← IO.FS.realPath parent).isDir then
      return fs.place (Path.names parent) (.dir [])
    else return fs
  catch _ => return fs

def addAll (o : Options) (fs : FileSystem) : IO FileSystem := do
  let fs ← (o.input :: o.references ++ o.contracts).foldlM (addTree true) fs
  let fs ← o.dot.toList.foldlM (addTree false) fs
  let fs ← o.output.toList.foldlM addParent fs
  o.output.toList.foldlM (addTree false) fs

def snapshot (o : Options) : IO FileSystem := do
  let cwd := (← IO.currentDir).toString
  let empty : FileSystem := ⟨cwd, .dir []⟩
  addAll o (empty.place (Path.names cwd) (.dir []))

def Event.line (e : Event) : String :=
  let fields := e.fields.map fun (name, value) => " " ++ name ++ "=" ++ value
  e.level.name ++ " " ++ e.message ++ String.join fields

/-- Carries out what a run did to files, and prints what it printed. Details of the analysis are not
printed. -/
def deliver (o : Options) (before : FileSystem) (s : Session) : IO Unit := do
  for dir in o.dot.toList do
    if s.files.exists? dir then IO.FS.createDirAll dir
  for (path, content) in s.files.changes before do
    IO.FS.writeBinFile path ⟨content.toArray⟩
  for event in s.events do
    if event.level ≠ .debug then IO.eprintln event.line
  IO.print s.stdout
  IO.eprint s.stderr

def fail (o : Options) (before : FileSystem) (e : RunError) (s : Session) : IO UInt32 := do
  deliver o before s
  match e with
  | .oversized =>
    IO.eprintln e.message
    return 101
  | _ =>
    IO.eprintln ("Error: " ++ e.message)
    return 1

def execute (o : Options) (arguments : List String) : IO UInt32 := do
  let started ← IO.monoMsNow
  let files ← snapshot o
  let opening : Run Scan := do
    Session.prepare o
    Session.scan o
  match ← IO.lazyPure fun _ => opening.run (Session.start files) with
  | .error e s => fail o files e s
  | .ok scan s =>
    let scanned ← IO.monoMsNow
    match ← IO.lazyPure fun _ => (Session.analyze o scan).run s with
    | .error e s => fail o files e s
    | .ok analysis s =>
      let analyzed ← IO.monoMsNow
      let call : Report.Call :=
        ⟨Report.toolName :: arguments, scanned - started, analyzed - scanned, analyzed - started⟩
      match (Session.finish o call scan analysis).run s with
      | .error e s => fail o files e s
      | .ok _ s => do
        deliver o files s
        return 0

end NullFlow

open NullFlow in
def main (arguments : List String) : IO UInt32 := do
  match CommandLine.parse arguments with
  | .ok o => execute o arguments
  | .error e =>
    if e = .help ∨ e = .version then
      IO.println e.message
      return 0
    else
      IO.eprintln ("error: " ++ e.message)
      return 2
