import NullFlow.Url.Host

namespace NullFlow

structure Url.Authority where
  user : String
  password : String
  host : Option Url.Host
  portNumber : Option Nat
  deriving DecidableEq

inductive Url.Route where
  | rooted (segments : List String)
  | rootless (text : String)
  deriving DecidableEq

structure Url where
  scheme : String
  authority : Option Url.Authority
  route : Url.Route
  query : Option String
  fragment : Option String
  deriving DecidableEq

namespace Url

def Route.text : Route → String
  | .rooted segments => String.join (segments.map ("/" ++ ·))
  | .rootless text => text

def Authority.credentials (a : Authority) : String :=
  if a.user = "" ∧ a.password = "" then ""
  else a.user ++ (if a.password = "" then "" else ":" ++ a.password) ++ "@"

def Authority.text (a : Authority) : String :=
  a.credentials ++ (a.host.map Host.text).getD "" ++ (a.portNumber.map fun p => ":" ++ toString p).getD ""

/-- Where no authority stands between the scheme and the route, a route that starts with two slashes
is told from an authority by a point. -/
def text (url : Url) : String :=
  let route := url.route.text
  let middle := match url.authority with
    | some a => "//" ++ a.text
    | none => if route.startsWith "//" then "/." else ""
  url.scheme ++ ":" ++ middle ++ route ++ (url.query.map ("?" ++ ·)).getD "" ++
    (url.fragment.map ("#" ++ ·)).getD ""

def fileScheme : String := "file"

def networkSchemes : List (String × Nat) :=
  [("http", 80), ("https", 443), ("ws", 80), ("wss", 443), ("ftp", 21)]

def isSlash (c : Char) : Bool := c = '/' || c = '\\'

/-- Blanks and control characters around a URL do not count, nor do tabs and line breaks in it. -/
def strip (cs : List Char) : List Char :=
  let trimmed := ((cs.dropWhile (· ≤ ' ')).reverse.dropWhile (· ≤ ' ')).reverse
  trimmed.filter fun c => c ≠ '\t' ∧ c ≠ '\n' ∧ c ≠ '\r'

def cut (mark : Char) (cs : List Char) : List Char × Option (List Char) :=
  match cs.dropWhile (· ≠ mark) with
  | [] => (cs, none)
  | _ :: rest => (cs.takeWhile (· ≠ mark), some rest)

def isSchemeChar (c : Char) : Bool :=
  c.isAlphanum || c = '+' || c = '-' || c = '.'

def scheme? (cs : List Char) : Option (String × List Char) :=
  let name := cs.takeWhile isSchemeChar
  match cs.dropWhile isSchemeChar with
  | ':' :: rest =>
    if name.head?.any Char.isAlpha then some ((String.ofList name).toLower, rest) else none
  | _ => none

/-- How a segment moves along the route. -/
inductive Move where
  | stay | up | down
  deriving DecidableEq

def moveOf (segment : List Char) : Move :=
  let s := (String.ofList segment).toLower
  if s = "." ∨ s = "%2e" then .stay
  else if s = ".." ∨ s = ".%2e" ∨ s = "%2e." ∨ s = "%2e%2e" then .up
  else .down

def isDrive (segment : String) : Bool :=
  match segment.toList with
  | [letter, mark] => letter.isAlpha && (mark = ':' || mark = '|')
  | _ => false

structure Walk where
  taken : List String
  onDrive : Bool

namespace Walk

def start : Walk := ⟨[], false⟩

/-- A step up leads away from anywhere but a drive. The drive that a file's route starts with is written
with a colon. -/
def step (file : Bool) (w : Walk) (segment : List Char) : Walk :=
  match moveOf segment with
  | .stay => w
  | .up => { w with taken := if w.taken.head?.any isDrive then w.taken else w.taken.tail }
  | .down =>
    if file ∧ w.taken.isEmpty ∧ isDrive (String.ofList segment) then
      ⟨[String.ofList (segment.take 1 ++ [':'])], true⟩
    else { w with taken := percentEncode .path segment :: w.taken }

def follow (file : Bool) (segments : List (List Char)) : Walk :=
  let w := segments.foldl (step file) start
  if segments.getLast?.any (moveOf · ≠ .down) then { w with taken := "" :: w.taken } else w

def route (w : Walk) : List String := w.taken.reverse

end Walk

/-- The segments of a special scheme, whose slashes may lean the other way. -/
def slashed (cs : List Char) : List (List Char) :=
  let cs := cs.map fun c => if isSlash c then '/' else c
  Text.split '/' (if cs.head? = some '/' then cs.tail else cs)

def specialRoute (cs : List Char) : List String :=
  (Walk.follow false (slashed cs)).route

def oneRoot (segments : List String) : List String :=
  match segments.dropWhile (· = "") with
  | [] => [""]
  | rest => rest

def plainRoute (cs : List Char) : List String :=
  match cs with
  | [] => []
  | c :: rest => (Walk.follow false (Text.split '/' (if c = '/' then rest else cs))).route

def portNumber? (cs : List Char) : Except UrlError (Option Nat) :=
  match cs, numeral? 10 cs with
  | [], _ => .ok none
  | _, some n => if n < 65536 then .ok (some n) else .error .badPort
  | _, none => .error .badPort

def splitPort (inBrackets : Bool) : List Char → List Char × Option (List Char)
  | [] => ([], none)
  | c :: rest =>
    if c = ':' ∧ !inBrackets then ([], some rest)
    else
      let inside := c = '[' || (inBrackets && c ≠ ']')
      let (host, rest) := splitPort inside rest
      (c :: host, rest)

def splitUser (cs : List Char) : Option (List Char) × List Char :=
  let reversed := cs.reverse
  match reversed.dropWhile (· ≠ '@') with
  | [] => (none, cs)
  | _ :: before => (some before.reverse, (reversed.takeWhile (· ≠ '@')).reverse)

/-- The authority written between the slashes and the route, and what is left of the text: a port ends at
a backslash too. `more` tells whether anything follows. -/
def Authority.parse (usualPort : Option Nat) (special more : Bool) (cs : List Char) :
    Except UrlError (Authority × List Char) := do
  let (info, rest) := splitUser cs
  if info = some [] ∧ rest.isEmpty ∧ more then throw .emptyHost
  let (user, password) := cut ':' (info.getD [])
  let user := percentEncode .userinfo user
  let password := percentEncode .userinfo (password.getD [])
  let (hostText, portText) := splitPort false rest
  if hostText.isEmpty ∧ (special ∨ portText.isSome ∨ user ≠ "" ∨ password ≠ "") then throw .emptyHost
  let host ← if hostText.isEmpty then pure none
    else if special then some <$> Host.ofText hostText
    else some <$> Host.ofPlainText hostText
  let portText := portText.getD []
  let number ← portNumber? (portText.takeWhile (· ≠ '\\'))
  return (⟨user, password, host, if number = usualPort then none else number⟩,
    portText.dropWhile (· ≠ '\\'))

def fileHost (cs : List Char) : Except UrlError (Option Host) := do
  if cs.isEmpty then return none
  match ← Host.ofText cs with
  | .name "localhost" => return none
  | host => return some host

def fileOn (host : Option Host) (cs : List Char) : Authority × Route :=
  let w := Walk.follow true (slashed cs)
  (⟨"", "", if w.onDrive then none else host, none⟩, .rooted (oneRoot w.route))

/-- The authority and the route of a file. A drive in the place of the host starts the route. -/
def fileHierarchy (cs : List Char) : Except UrlError (Authority × Route) := do
  match cs with
  | a :: b :: rest =>
    if isSlash a ∧ isSlash b then
      let owner := rest.takeWhile (!isSlash ·)
      if isDrive (String.ofList owner) then return fileOn none rest
      return fileOn (← fileHost owner) (rest.dropWhile (!isSlash ·))
    else return fileOn none cs
  | _ => return fileOn none cs

def hierarchy (scheme : String) (more : Bool) (cs : List Char) :
    Except UrlError (Option Authority × Route) := do
  if scheme = fileScheme then
    let (owner, route) ← fileHierarchy cs
    return (some owner, route)
  match networkSchemes.lookup scheme with
  | some usual =>
    let rest := cs.dropWhile isSlash
    let route := rest.dropWhile (!isSlash ·)
    let (owner, _) ←
      Authority.parse (some usual) true (more || !route.isEmpty) (rest.takeWhile (!isSlash ·))
    return (some owner, .rooted (specialRoute route))
  | none =>
    match cs with
    | '/' :: '/' :: rest =>
      let route := rest.dropWhile (· ≠ '/')
      let (owner, left) ←
        Authority.parse none false (more || !route.isEmpty) (rest.takeWhile (· ≠ '/'))
      return (some owner, .rooted (plainRoute (left ++ route)))
    | '/' :: _ => return (none, .rooted (plainRoute cs))
    | _ => return (none, .rootless (percentEncode .plain cs))

def isSpecial (scheme : String) : Bool :=
  scheme = fileScheme || (networkSchemes.lookup scheme).isSome

def parse (s : String) : Except UrlError Url :=
  match scheme? (strip s.toList) with
  | none => .error .noBase
  | some (scheme, rest) => do
    let (rest, fragment) := cut '#' rest
    let (rest, query) := cut '?' rest
    let (authority, route) ← hierarchy scheme (query.isSome || fragment.isSome) rest
    return { scheme, authority, route
             query := query.map (percentEncode (.query (isSpecial scheme)))
             fragment := fragment.map (percentEncode .fragment) }

end Url

end NullFlow
