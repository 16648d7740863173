namespace NullFlow.Offset

def hex (offset : Nat) : String :=
  let digits := (Nat.toDigits 16 offset).map Char.toUpper
  String.ofList (List.replicate (4 - digits.length) '0' ++ digits)

def label (offset : Nat) : String :=
  "IL_" ++ hex offset

end NullFlow.Offset
