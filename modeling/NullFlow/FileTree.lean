import NullFlow.Path
import NullFlow.Text.Utf8

namespace NullFlow

open Text (Bytes)

inductive IoError where
  | notFound | exists | notDirectory | isDirectory | nameTooLong | badName | notUtf8
  deriving DecidableEq

def IoError.message : IoError → String
  | .notFound => "No such file or directory (os error 2)"
  | .exists => "File exists (os error 17)"
  | .notDirectory => "Not a directory (os error 20)"
  | .isDirectory => "Is a directory (os error 21)"
  | .nameTooLong => "File name too long (os error 36)"
  | .badName => "file name contained an unexpected NUL byte"
  | .notUtf8 => "stream did not contain valid UTF-8"

inductive FileTree where
  | file (content : Bytes)
  | dir (entries : List (String × FileTree))

namespace FileTree

def isDir : FileTree → Bool
  | .dir _ => true
  | .file _ => false

def maxName : Nat := 255

def checkName (name : String) : Except IoError Unit :=
  if name.utf8ByteSize ≤ maxName then .ok () else .error .nameTooLong

/-- Follows names from a directory whose own parents are given, nearest first. Nothing lies above the
root. -/
def follow : List FileTree → FileTree → List String → Except IoError FileTree
  | _, t, [] => .ok t
  | _, .file _, _ :: _ => .error .notDirectory
  | parents, .dir entries, name :: rest =>
    if name = ".." then
      match parents with
      | [] => follow [] (.dir entries) rest
      | parent :: parents => follow parents parent rest
    else do
      checkName name
      match entries.lookup name with
      | none => throw .notFound
      | some t => follow (.dir entries :: parents) t rest

def find (t : FileTree) (names : List String) : Except IoError FileTree :=
  follow [] t names

def setEntry (name : String) (t : FileTree) : List (String × FileTree) → List (String × FileTree)
  | [] => [(name, t)]
  | (n, u) :: rest => if n = name then (name, t) :: rest else (n, u) :: setEntry name t rest

/-- The tree with `leaf` at the end of the names, and directories wherever one is missing before it. -/
def graft (leaf : FileTree) : List String → FileTree → FileTree
  | [], _ => leaf
  | _ :: _, .file content => .file content
  | name :: rest, .dir entries =>
    .dir (setEntry name (graft leaf rest ((entries.lookup name).getD (.dir []))) entries)

mutual

def files : FileTree → List (String × Bytes)
  | .file content => [("", content)]
  | .dir entries => filesOf entries

def filesOf : List (String × FileTree) → List (String × Bytes)
  | [] => []
  | (name, t) :: rest =>
    (files t).map (fun (path, content) => (if path = "" then name else name ++ "/" ++ path, content))
      ++ filesOf rest

end

end FileTree

def Path.maxLength : Nat := 4095

def Path.check (path : Path) : Except IoError Unit := do
  if path.toList.contains '\x00' then throw .badName
  if maxLength < path.utf8ByteSize then throw .nameTooLong

/-- All files, and the absolute path at which relative ones start. -/
structure FileSystem where
  cwd : Path
  root : FileTree

namespace FileSystem

def locate (fs : FileSystem) (path : Path) : List String :=
  if path.isAbsolute then path.names else Path.names fs.cwd ++ path.names

def find (fs : FileSystem) (path : Path) : Except IoError FileTree := do
  path.check
  let t ← fs.root.find (fs.locate path)
  if path.wantsDirectory && !t.isDir then throw .notDirectory
  return t

def exists? (fs : FileSystem) (path : Path) : Bool :=
  (fs.find path).toBool

def read (fs : FileSystem) (path : Path) : Except IoError Bytes := do
  match ← fs.find path with
  | .file content => return content
  | .dir _ => throw .isDirectory

def readText (fs : FileSystem) (path : Path) : Except IoError String := do
  match Text.decode? (← fs.read path) with
  | some text => return text
  | none => throw .notUtf8

def place (fs : FileSystem) (names : List String) (t : FileTree) : FileSystem :=
  { fs with root := FileTree.graft t (Path.withoutParents names) fs.root }

def write (fs : FileSystem) (path : Path) (content : Bytes) : Except IoError FileSystem := do
  path.check
  let names := fs.locate path
  if path.endsInPoint then
    discard (fs.find path)
    throw .isDirectory
  match ← fs.root.find names.dropLast with
  | .file _ => throw .notDirectory
  | .dir _ => pure ()
  if path.wantsDirectory then throw .isDirectory
  match fs.root.find names with
  | .ok (.file _) => return fs.place names (.file content)
  | .error .notFound => return fs.place names (.file content)
  | .ok (.dir _) => throw .isDirectory
  | .error e => throw e

def extend (fs : FileSystem) : List String → List String → Except IoError FileSystem
  | _, [] => .ok fs
  | done, name :: rest =>
    let names := done ++ [name]
    match fs.root.find names with
    | .ok (.dir _) => extend fs names rest
    | .ok (.file _) => .error (if rest.isEmpty then .exists else .notDirectory)
    | .error .notFound => extend (fs.place names (.dir [])) names rest
    | .error e => .error e

/-- Makes a directory and those above it. A point at the end makes none. -/
def createDirs (fs : FileSystem) (path : Path) : Except IoError FileSystem := do
  path.check
  let names := fs.locate path
  if path.endsInPoint then
    let fs ← match fs.find path with
      | .error .notFound => fs.extend [] names.dropLast
      | _ => pure fs
    discard (fs.find path)
    return fs
  fs.extend [] names

/-- Every file with its path from the working directory, or from the root if it lies elsewhere. -/
def files (fs : FileSystem) : List (Path × Bytes) :=
  let home := fs.cwd.join ""
  fs.root.files.map fun (path, content) =>
    let absolute := "/" ++ path
    if absolute.startsWith home then
      (String.ofList (absolute.toList.drop home.length), content)
    else (absolute, content)

def changes (fs before : FileSystem) : List (Path × Bytes) :=
  let old := before.files
  fs.files.filter fun (path, content) => old.lookup path != some content

def newFiles (fs before : FileSystem) : List (Path × Bytes) :=
  let old := before.files.map (·.1)
  fs.files.filter fun (path, _) => !old.contains path

end FileSystem

end NullFlow
