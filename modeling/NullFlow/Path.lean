namespace NullFlow

abbrev Path := String

namespace Path

def pieces (path : Path) : List String :=
  go path.toList
where
  go : List Char → List String
    | [] => [""]
    | c :: cs =>
      match go cs with
      | [] => [c.toString]
      | p :: ps => if c = '/' then "" :: p :: ps else (c.toString ++ p) :: ps

def names (path : Path) : List String :=
  path.pieces.filter fun p => p ≠ "" ∧ p ≠ "."

/-- The way without steps upwards; from the root there are none. -/
def withoutParents (names : List String) : List String :=
  (names.foldl (fun taken name => if name = ".." then taken.tail else name :: taken) []).reverse

def isAbsolute (path : Path) : Bool :=
  path.toList.head? == some '/'

/-- Paths are the same when they take the same steps from the same place. A leading point counts. -/
def same (a b : Path) : Bool :=
  let start (p : Path) := (p.isAbsolute, p.pieces.head? == some ".")
  start a == start b && a.names == b.names

def endsInPoint (path : Path) : Bool :=
  (path.pieces.reverse.dropWhile (· = "")).head? == some "."

def wantsDirectory (path : Path) : Bool :=
  match path.pieces.getLast? with
  | some "" => true
  | some "." => true
  | some ".." => true
  | _ => false

def join (base name : Path) : Path :=
  if name.isAbsolute then name
  else if base.toList.getLast?.all (· == '/') then base ++ name
  else base ++ "/" ++ name

/-- What follows the last point of the last name; a name has no extension if that point is its first
character. -/
def extension (path : Path) : Option String :=
  match path.names.getLast? with
  | none => none
  | some ".." => none
  | some name =>
    let reversed := name.toList.reverse
    let tail := reversed.takeWhile (· ≠ '.')
    if tail.length + 1 < reversed.length then some (String.ofList tail.reverse) else none

end Path

end NullFlow
