namespace NullFlow.Text

def split (separator : Char) : List Char → List (List Char)
  | [] => [[]]
  | c :: cs =>
    match split separator cs with
    | [] => [[c]]
    | p :: ps => if c = separator then [] :: p :: ps else (c :: p) :: ps

def digitOf (c : Char) : Nat :=
  if '0' ≤ c ∧ c ≤ '9' then c.toNat - 0x30
  else if 'A' ≤ c ∧ c ≤ 'F' then c.toNat - 0x37
  else 0

def hexNumber (digits : List Char) : Nat :=
  digits.foldl (fun n c => 16 * n + digitOf c) 0

def words (lines : List String) : List (List Char) :=
  lines.flatMap fun line => split ' ' line.toList

structure Run where
  first : Nat
  last : Nat
  deriving DecidableEq

namespace Run

def ofText (word : List Char) : Run :=
  match split '-' word with
  | first :: last :: _ => ⟨hexNumber first, hexNumber last⟩
  | _ => ⟨hexNumber word, hexNumber word⟩

def has (r : Run) (n : Nat) : Bool :=
  r.first ≤ n && n ≤ r.last

end Run

abbrev Runs := List Run

namespace Runs

def ofLines (lines : List String) : Runs :=
  (words lines).map Run.ofText

def has (runs : Runs) (c : Char) : Bool :=
  runs.any (·.has c.toNat)

def classify (sets : List (α × Runs)) (c : Char) : Option α :=
  (sets.find? fun (_, runs) => runs.has c).map (·.1)

end Runs

end NullFlow.Text
