import NullFlow.Contracts
import NullFlow.Path

namespace NullFlow

structure Options where
  input : Path
  references : List Path
  contracts : List Path
  marker : String
  output : Option Path
  dot : Option Path
  collector : Option String
  trace : Bool
  quiet : Bool
  timing : Bool
  deriving DecidableEq

namespace CommandLine

/-- Why no run follows from a command line. Asking for help or for the version is one reason. -/
inductive UsageError where
  | unknownArgument | missingInput | badValue | repeated | unwantedValue | help | version
  deriving DecidableEq

def UsageError.message : UsageError → String
  | .unknownArgument => "unexpected argument"
  | .missingInput => "the option --input <PATH> is required"
  | .badValue => "an option lacks its value"
  | .repeated => "an option is given twice"
  | .unwantedValue => "a switch takes no value"
  | .help => "usage: ilnull --input <PATH> [--reference <PATH>]... [--contracts <PATH>]... " ++
      "[--non-null-attribute <CTOR>] [--output <PATH>] [--trace] [--dot <DIR>] [--quiet] [--timing] " ++
      "[--otel <URL>]"
  | .version => "ilnull 0.1.0"

inductive Setting where
  | input | reference | contracts | marker | output | dot | collector
  deriving DecidableEq

inductive Switch where
  | trace | quiet | timing | help | version
  deriving DecidableEq

inductive Flag where
  | setting (which : Setting)
  | switch (which : Switch)
  deriving DecidableEq

def Flag.names : List (String × Flag) :=
  [("input", .setting .input), ("reference", .setting .reference),
   ("contracts", .setting .contracts), ("non-null-attribute", .setting .marker),
   ("output", .setting .output), ("dot", .setting .dot), ("otel", .setting .collector),
   ("trace", .switch .trace), ("quiet", .switch .quiet), ("timing", .switch .timing),
   ("help", .switch .help), ("version", .switch .version)]

def Switch.letters : List (Char × Switch) :=
  [('h', .help), ('V', .version)]

structure Draft where
  input : Option Path
  references : List Path
  contracts : List Path
  marker : Option String
  output : Option Path
  dot : Option Path
  collector : Option String
  trace : Bool
  quiet : Bool
  timing : Bool

namespace Draft

def empty : Draft := ⟨none, [], [], none, none, none, none, false, false, false⟩

def once (old : Option String) (value : String) : Except UsageError (Option String) :=
  if old.isSome then .error .repeated else .ok (some value)

def path (value : String) : Except UsageError Path :=
  if value = "" then .error .badValue else .ok value

/-- Gives an option its value. That it is repeated is noticed before its value is looked at. -/
def set (d : Draft) (which : Setting) (value : String) : Except UsageError Draft := do
  match which with
  | .input =>
    let input ← once d.input value
    discard (path value)
    return { d with input }
  | .output =>
    let output ← once d.output value
    discard (path value)
    return { d with output }
  | .dot =>
    let dot ← once d.dot value
    discard (path value)
    return { d with dot }
  | .marker => return { d with marker := ← once d.marker value }
  | .collector => return { d with collector := ← once d.collector value }
  | .reference => return { d with references := d.references ++ [← path value] }
  | .contracts => return { d with contracts := d.contracts ++ [← path value] }

def turnOn (d : Draft) : Switch → Except UsageError Draft
  | .trace => if d.trace then .error .repeated else .ok { d with trace := true }
  | .quiet => if d.quiet then .error .repeated else .ok { d with quiet := true }
  | .timing => if d.timing then .error .repeated else .ok { d with timing := true }
  | .help => .error .help
  | .version => .error .version

def options (d : Draft) : Except UsageError Options :=
  match d.input with
  | none => .error .missingInput
  | some input =>
    .ok { input
          references := d.references
          contracts := d.contracts
          marker := d.marker.getD Contracts.defaultMarker
          output := d.output
          dot := d.dot
          collector := d.collector
          trace := d.trace
          quiet := d.quiet
          timing := d.timing }

end Draft

inductive Word where
  | long (name : String) (value : Option String)
  | short (letter : Char)
  | escape
  | bare (text : String)
  deriving DecidableEq

def Word.ofArgument (argument : String) : Word :=
  match argument.toList with
  | ['-', '-'] => .escape
  | '-' :: '-' :: rest =>
    match rest.dropWhile (· ≠ '=') with
    | [] => .long (String.ofList rest) none
    | _ :: value => .long (String.ofList (rest.takeWhile (· ≠ '='))) (some (String.ofList value))
  | '-' :: letter :: _ => .short letter
  | _ => .bare argument

/-- Where reading stands: the options so far, and an option that is not entered yet, with its value
once that is there. -/
structure State where
  draft : Draft
  waiting : Option (Setting × Option String)

namespace State

def settle (s : State) : Except UsageError Draft :=
  match s.waiting with
  | none => .ok s.draft
  | some (_, none) => .error .badValue
  | some (which, some value) => s.draft.set which value

def turnOn (s : State) (which : Switch) : Except UsageError State := do
  return ⟨← (← s.settle).turnOn which, none⟩

/-- Reads one argument; what is unknown is refused before anything that waits is entered. -/
def read (s : State) : Word → Except UsageError State
  | .escape => .ok s
  | .bare text =>
    match s.waiting with
    | some (which, none) => .ok { s with waiting := some (which, some text) }
    | _ => .error .unknownArgument
  | .short letter =>
    match Switch.letters.lookup letter with
    | some which => s.turnOn which
    | none => .error .unknownArgument
  | .long name value =>
    match Flag.names.lookup name, value with
    | none, _ => .error .unknownArgument
    | some (.switch which), none => s.turnOn which
    | some (.switch _), some _ => .error .unwantedValue
    | some (.setting which), none => do return ⟨← s.settle, some (which, none)⟩
    | some (.setting which), some value => do return ⟨← (← s.settle).set which value, none⟩

end State

def readAll (s : State) : List Word → Except UsageError State
  | [] => .ok s
  | [.escape] => .ok s
  | .escape :: _ :: _ => .error .unknownArgument
  | word :: rest => do readAll (← s.read word) rest

def parse (arguments : List String) : Except UsageError Options := do
  let s ← readAll ⟨.empty, none⟩ (arguments.map Word.ofArgument)
  (← s.settle).options

end CommandLine

end NullFlow
