namespace NullFlow

abbrev NameSet := List String

namespace NameSet

def insert (name : String) : NameSet → NameSet
  | [] => [name]
  | n :: ns =>
    if name < n then name :: n :: ns else if name = n then n :: ns else n :: insert name ns

def insertAll (names : List String) (set : NameSet) : NameSet :=
  names.foldl (fun set name => insert name set) set

end NameSet

end NullFlow
