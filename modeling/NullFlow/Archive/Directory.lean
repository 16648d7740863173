import NullFlow.Archive.Entry

namespace NullFlow.Archive

open Text (Bytes)

def marksFrom (mark : Bytes) (position : Nat) : Bytes → List Nat
  | [] => []
  | b :: rest =>
    if mark.isPrefixOf (b :: rest) then position :: marksFrom mark (position + 1) rest
    else marksFrom mark (position + 1) rest

def marksBetween (record : Record) (s : Bytes) (first last : Nat) : List Nat :=
  (marksFrom record.markBytes first (s.drop first)).filter (· + 4 ≤ last)

/-- Where the directory is: how many entries it has, how far the archive is shifted by what stands
before it, where it starts, and what speaks against reading it. -/
structure Layout where
  count : Nat
  shift : Nat
  start : Nat
  objection : Option Error

namespace Layout

/-- What the end record at a position says, if that can be right. Of an archive without entries nothing is
checked; else the directory starts with the first mark from its stated place on. -/
def ofEnd (s : Bytes) (position : Nat) (bytes : Bytes) : Except Error Layout :=
  let get := field bytes
  let start := get 16 4
  let shiftedBy (shift : Nat) : Layout :=
    ⟨get 8 2, shift, start + shift, if get 4 2 = get 6 2 then none else some .severalDisks⟩
  if get 10 2 = 0 then .ok (shiftedBy (position - start))
  else if position ≤ start then .error .badStart
  else match marksBetween .entry s start position with
    | first :: _ => .ok (shiftedBy (first - start))
    | [] => .error .noDirectory

def locator? (s : Bytes) (position : Nat) : Option Bytes :=
  if position < Record.locator.size then none
  else (fixed .locator s (position - Record.locator.size)).toOption

def ofWideEnd (s : Bytes) (locator : Bytes) (locatorAt position : Nat) : Except Error Layout := do
  let bytes ← fixed .wideEndRecord s position
  let get := field bytes
  let room := locatorAt - position
  if get 4 8 < 44 then throw .shortWideEndRecord
  if room < get 4 8 + 12 then throw .longWideEndRecord
  if get 20 4 ≠ field locator 4 4 then throw .wideEndDisk
  if get 4 8 + 12 ≠ room then throw .wideEndLength
  if position < get 32 8 * Record.entry.size + get 48 8 then throw .wideEndCount
  let shift := position - field locator 8 8
  let objection :=
    if get 32 8 < get 24 8 then some .wideEndDiskCount
    else if get 12 2 < get 14 2 then some .wideEndVersion
    else if word ≤ get 48 8 + shift then some .directoryTooFar
    else if get 16 4 ≠ get 20 4 then some .severalDisks
    else none
  return ⟨get 32 8, shift, get 48 8 + shift, objection⟩

def firstRight (read : Nat → Except Error α) : List Nat → Error → Except Error α
  | [], e => .error e
  | position :: rest, _ =>
    match read position with
    | .ok a => .ok a
    | .error e => firstRight read rest e

def ofLocator (s : Bytes) (locatorAt : Nat) (locator : Bytes) : Except Error Layout := do
  let start := field locator 8 8
  if locatorAt ≤ start then throw .badLocator
  if 1 < field locator 16 4 then throw .severalLocatorDisks
  firstRight (ofWideEnd s locator locatorAt) (marksBetween .wideEndRecord s start locatorAt)
    .noWideEndRecord

/-- The layout by the end record at a position. Numbers that it cannot hold are in a wide one. -/
def at? (s : Bytes) (position : Nat) : Except Error Layout := do
  let bytes ← fixed .endRecord s position
  if (slice? s (position + Record.endRecord.size) (field bytes 20 2)).isNone then throw .longComment
  let isWide := field bytes 10 2 = 0xFFFF || field bytes 16 4 = overflowed
  match if isWide then locator? s position else none with
  | some locator => ofLocator s (position - Record.locator.size) locator
  | none => ofEnd s position bytes

end Layout

def readEntries (s : Bytes) (shift : Nat) : Nat → Nat → Except Error (List Entry)
  | 0, _ => .ok []
  | count + 1, position => do
    let (e, next) ← Entry.read s shift position
    return e :: (← readEntries s shift count next)

def Layout.entries (s : Bytes) (l : Layout) : Except Error (List Entry) :=
  match l.objection with
  | some e => .error e
  | none => readEntries s l.shift l.count l.start

/-- An end record that is cut off: of several such complaints the first counts. -/
def Error.isCut : Error → Bool
  | .ended .endRecord => true
  | .longComment => true
  | _ => false

/-- The entries of the directory that the first of the end records leads to from which they can be read.
If there is none, the last complaint about a directory counts, or else the last one about an end record. -/
def searchEntries (s : Bytes) : List Nat → Option Error → Option Error → Except Error (List Entry)
  | [], unread, unfound => .error ((unread <|> unfound).getD .noEndRecord)
  | position :: rest, unread, unfound =>
    match Layout.at? s position with
    | .error e => searchEntries s rest unread (if e.isCut then unfound <|> some e else some e)
    | .ok l =>
      match l.entries s with
      | .ok entries => .ok entries
      | .error e => searchEntries s rest (some e) none

def readDirectory (s : Bytes) : Except Error (List Entry) :=
  searchEntries s (marksBetween .endRecord s 0 s.length).reverse none none

end NullFlow.Archive
