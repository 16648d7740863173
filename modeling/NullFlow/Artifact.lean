namespace NullFlow

structure Artifact where
  uri : Option String
  length : Option Nat
  parent : Option Int
  isTarget : Bool
  deriving DecidableEq

namespace Artifact

def at? (artifacts : List Artifact) (index : Int) : Option Artifact :=
  if 0 ≤ index then artifacts[index.toNat]? else none

/-- The artifact of this number and the archives around it, going at most `fuel` steps outwards. -/
def ancestry (artifacts : List Artifact) : Nat → Int → List Artifact
  | 0, _ => []
  | fuel + 1, index =>
    match at? artifacts index with
    | none => []
    | some a => a :: match a.parent with
      | none => []
      | some parent => ancestry artifacts fuel parent

/-- An artifact is analyzed when it, or an archive around it, was an input. When no input is recorded
everything is analyzed. -/
def analyzed (artifacts : List Artifact) (index : Int) : Bool :=
  !artifacts.any (·.isTarget) || (ancestry artifacts (artifacts.length + 1) index).any (·.isTarget)

def uriAt? (artifacts : List Artifact) (index : Int) : Option String :=
  (at? artifacts index).bind (·.uri)

end Artifact

end NullFlow
