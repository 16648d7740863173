import NullFlow.Archive
import NullFlow.FileTree
import NullFlow.Inspection
import NullFlow.Logged
import NullFlow.Metadata.Decoder
import NullFlow.NameSet

namespace NullFlow

open Text (Bytes)

inductive ScanError where
  | unsupported (path : Path)
  | unreadable (path : Path) (cause : IoError)
  | unopened (path : Path) (cause : IoError)
  | archive (path : Path) (cause : String)
  | unpackable (origin : String) (cause : String)
  | undecodable (origin : String) (cause : Json.Failure)

def ScanError.message : ScanError → String
  | .unsupported path => "unsupported input file: " ++ path
  | .unreadable path cause => "failed to read " ++ path ++ ": " ++ cause.message
  | .unopened path cause => "failed to open " ++ path ++ ": " ++ cause.message
  | .archive path cause => "failed to read " ++ path ++ ": " ++ cause
  | .unpackable origin cause => "failed to read " ++ origin ++ ": " ++ cause
  | .undecodable origin cause => "failed to decode " ++ origin ++ ": " ++ cause.message

inductive Source where
  | dump (path : Path) (content : Except IoError Bytes)
  | bundle (path : Path) (content : Except IoError Bytes)
  | other (path : Path)

namespace Source

def ofFile (path : Path) (content : Except IoError Bytes) : Source :=
  match path.extension with
  | some "json" => .dump path content
  | some "zip" => .bundle path content
  | _ => .other path

def isSupported : Source → Bool
  | .other _ => false
  | _ => true

def insertGroup (path : Path) (group : List Source) :
    List (Path × List Source) → List (Path × List Source)
  | [] => [(path, group)]
  | (p, g) :: rest =>
    if path < p then (path, group) :: (p, g) :: rest else (p, g) :: insertGroup path group rest

mutual

/-- The sources in a tree found at a path, in the order of the paths at every level. What cannot be asked
for by its path is taken for a file. -/
def inTree (path : Path) : FileTree → List Source
  | .file content => [ofFile path (path.check.map fun _ => content)].filter isSupported
  | .dir entries =>
    match path.check with
    | .error e => [ofFile path (.error e)].filter isSupported
    | .ok _ => (inEntries path entries).flatMap (·.2)

def inEntries (path : Path) : List (String × FileTree) → List (Path × List Source)
  | [] => []
  | (name, t) :: rest =>
    insertGroup (path.join name) (inTree (path.join name) t) (inEntries path rest)

end

def atPath (fs : FileSystem) (path : Path) : List Source :=
  match fs.find path with
  | .ok (.dir entries) => inTree path (.dir entries)
  | .ok (.file content) => [ofFile path (.ok content)]
  | .error e => [ofFile path (.error e)]

end Source

/-- What was loaded: the assemblies to analyze with their artifacts, and those that only contribute
contracts. -/
structure Scan where
  artifacts : List Artifact
  subjects : List Subject
  references : List Assembly

inductive Role where
  | target | reference
  deriving DecidableEq

namespace Scan

def empty : Scan := ⟨[], [], []⟩

def fileUri (cwd : String) (path : Path) : String :=
  "file://" ++ Path.join cwd path

def addSubject (s : Scan) (artifact : Artifact) (assembly : Assembly) : Scan :=
  { s with
    artifacts := s.artifacts ++ [artifact]
    subjects := s.subjects ++ [⟨assembly, s.artifacts.length⟩] }

def addReference (s : Scan) (assembly : Assembly) : Scan :=
  { s with references := s.references ++ [assembly] }

def fileArtifact (uri : String) (length : Nat) : Artifact :=
  ⟨some uri, some length, none, true⟩

def memberArtifact (uri : String) (length : Nat) (parent : Nat) : Artifact :=
  ⟨some uri, some length, some parent, false⟩

abbrev Loading := Logged Span ScanError

def decode (origin : String) (content : Bytes) : Loading Assembly :=
  .ofExcept ((Assembly.decode content).mapError (.undecodable origin))

def loadDump (cwd : String) (role : Role) (s : Scan) (path : Path) (content : Except IoError Bytes) :
    Loading Scan := do
  .tell [Span.scan path none]
  let content ← .ofExcept (content.mapError (.unreadable path))
  let assembly ← decode path content
  match role with
  | .target => return s.addSubject (fileArtifact (fileUri cwd path) content.length) assembly
  | .reference => return s.addReference assembly

def dumpNames (members : List String) : List String :=
  (members.filter fun name => name.endsWith ".json").foldr insertName []
where
  insertName (name : String) : List String → List String
    | [] => [name]
    | n :: rest => if name ≤ n then name :: n :: rest else n :: insertName name rest

/-- Loads one member of an archive; `parent` is the archive's artifact if that is analyzed. -/
def loadMember (uri : String) (path : Path) (a : Archive.View) (parent : Option Nat) (s : Scan)
    (name : String) : Loading Scan := do
  let origin := path ++ ":" ++ name
  .tell [Span.scan path (some name)]
  let content ← .ofExcept ((a.find name).mapError (.archive origin))
  let content ← .ofExcept (content.mapError (.unpackable origin))
  let assembly ← decode origin content
  match parent with
  | some p =>
    return s.addSubject (memberArtifact ("jar:" ++ uri ++ "!/" ++ name) content.length p) assembly
  | none => return s.addReference assembly

/-- Loads an archive. Every member must be one that can be read, also if it is not loaded. -/
def loadBundle (reader : Archive.Reader) (cwd : String) (role : Role) (s : Scan) (path : Path)
    (content : Except IoError Bytes) : Loading Scan := do
  let content ← .ofExcept (content.mapError (.unopened path))
  let a ← .ofExcept ((reader content).mapError (.archive path))
  let members ← .ofExcept ((a.members.mapM id).mapError (.archive path))
  let uri := fileUri cwd path
  let names := dumpNames members
  match role with
  | .target =>
    let opened := { s with artifacts := s.artifacts ++ [fileArtifact uri content.length] }
    names.foldlM (loadMember uri path a (some s.artifacts.length)) opened
  | .reference => names.foldlM (loadMember uri path a none) s

def loadSource (reader : Archive.Reader) (cwd : String) (role : Role) (s : Scan) :
    Source → Loading Scan
  | .dump path content => loadDump cwd role s path content
  | .bundle path content => loadBundle reader cwd role s path content
  | .other path => .ofExcept (.error (.unsupported path))

def referencePaths (input : Path) (references : List Path) : List Path :=
  (references.foldr insertPath []).filter fun path => !path.same input
where
  insertPath (path : Path) : List Path → List Path
    | [] => [path]
    | p :: rest => if path ≤ p then path :: p :: rest else p :: insertPath path rest

def run (reader : Archive.Reader) (fs : FileSystem) (input : Path) (references : List Path) :
    Loading Scan := do
  let s ← (Source.atPath fs input).foldlM (loadSource reader fs.cwd .target) empty
  (referencePaths input references).foldlM (fun s path =>
    (Source.atPath fs path).foldlM (loadSource reader fs.cwd .reference) s) s

def methodCount (s : Scan) : Nat :=
  TypeDef.countNested ((s.subjects.flatMap (·.assembly.modules)).flatMap (·.types))

end Scan

end NullFlow
