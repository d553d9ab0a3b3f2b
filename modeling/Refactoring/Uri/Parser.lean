import Refactoring.Text.Blank
import Refactoring.Uri.Basic

/-!
# Reading URIs

`Uri.parse` brings a text into the normal form of a URI: the scheme and the host in lower case, no
dot segments, no port number that the scheme implies, and every part percent-encoded where it has to
be.
-/

namespace Refactoring.Uri

/-- How a scheme shapes its URIs. -/
inductive Kind where
  /-- Paths on a disk; the host may be missing. -/
  | file
  /-- A host is required; its port number may be left out when it is this one. -/
  | web (portNumber : Nat)
  | other
  deriving Repr, DecidableEq

/-- The kind of a scheme. -/
def Kind.of (scheme : String) : Kind :=
  if scheme = "file" then .file
  else if scheme = "http" ∨ scheme = "ws" then .web 80
  else if scheme = "https" ∨ scheme = "wss" then .web 443
  else if scheme = "ftp" then .web 21
  else .other

/-- Files and the web. -/
def Kind.isSpecial : Kind → Bool
  | .other => false
  | _ => true

/-- What separates segments: special URIs take a backslash for a slash. -/
def isSlash (special : Bool) (c : Char) : Bool := c == '/' || (special && c == '\\')

/-- What ends the path. -/
def endsPath (c : Char) : Bool := c == '?' || c == '#'

/-- The text without blanks and controls at its ends. -/
def stripped (text : List Char) : List Char := Text.stripBoth (·.toNat ≤ 0x20) text

/-- Line breaks and tabs, which may stand anywhere and mean nothing. -/
def isBreak (c : Char) : Bool := c == '\t' || c == '\n' || c == '\r'

/-- The text without line breaks and tabs. -/
def unbroken (text : List Char) : List Char := text.filter fun c => !isBreak c

/-- A letter of ASCII. -/
def isLetter (c : Char) : Bool := ('a' ≤ c && c ≤ 'z') || ('A' ≤ c && c ≤ 'Z')

/-- What a scheme may hold behind its first letter. -/
def inScheme (c : Char) : Bool :=
  isLetter c || ('0' ≤ c && c ≤ '9') || c == '+' || c == '-' || c == '.'

/-- The scheme in lower case and what follows its colon, line breaks and tabs included. -/
def cutScheme? (text : List Char) : Option (String × List Char) :=
  let front := text.takeWhile fun c => inScheme c || isBreak c
  let name := unbroken front
  match text.drop front.length with
  | ':' :: rest =>
    if name.head?.any isLetter then some (String.ofList (name.map Char.toLower), rest) else none
  | _ => none

/-! ### Paths -/

/-- A segment that stands for its own directory. -/
def isDot (segment : String) : Bool := [".", "%2e", "%2E"].contains segment

/-- A segment that stands for the directory above. -/
def isDoubleDot (segment : String) : Bool :=
  ["..", "%2e%2e", "%2e%2E", "%2E%2e", "%2E%2E", "%2e.", "%2E.", ".%2e", ".%2E"].contains segment

/-- A letter with a colon, or a bar in its place: the root of a drive. -/
def isDrive (segment : String) : Bool :=
  match segment.toList with
  | [letter, mark] => isLetter letter && (mark == ':' || mark == '|')
  | _ => false

/-- A drive, alone or with a backslash behind it. -/
def beginsWithDrive (segment : String) : Bool :=
  match segment.toList with
  | letter :: mark :: rest => isDrive (String.ofList [letter, mark]) && rest.head?.all (· == '\\')
  | _ => false

/-- A drive with its colon. -/
def drive (letter : Char) : String := String.ofList [letter, ':']

/-- A segment that begins with a drive and goes on behind line breaks or tabs, cut between them. -/
def cutDrive? (segment : List Char) : Option (String × List Char) :=
  match segment.dropWhile isBreak with
  | letter :: rest =>
    match rest.dropWhile isBreak with
    | ':' :: behind =>
      if isLetter letter ∧ behind.head?.any isBreak ∧ behind.any (!isBreak ·) then
        some (drive letter, behind)
      else none
    | _ => none
  | [] => none

/-- Where some segments have led. -/
structure Route where
  /-- The segments that are left when dots have been followed. -/
  names : List String
  /-- Whether they begin with a drive, which only the own machine has. -/
  onDrive : Bool
  deriving Repr, DecidableEq

namespace Route

/-- The place where a path begins. -/
def start (names : List String) : Route := ⟨names, false⟩

/-- The route with another name at its end. -/
def add (r : Route) (name : String) : Route := { r with names := r.names ++ [name] }

/-- Leaves the last directory, but never the root of a drive. -/
def ascend (r : Route) : Route :=
  if r.names.getLast?.any beginsWithDrive then r else { r with names := r.names.dropLast }

/-- A segment as it is written. -/
def written (segment : List Char) : String :=
  String.ofList (percentEncode pathSet (unbroken segment))

/-- Enters a directory that a segment names.  The first one of a file may be a drive. -/
def enter (kind : Kind) (r : Route) (segment : List Char) : Route :=
  let name := written segment
  if kind ≠ .file ∨ r.names ≠ [] then r.add name
  else
    match cutDrive? segment with
    | some (drive, rest) => (r.add drive).add (written rest)
    | none =>
      match name.toList with
      | letter :: _ => if isDrive name then ⟨[drive letter], true⟩ else r.add name
      | [] => r.add name

/-- Follows segments; the last of them names the resource. -/
def follow (kind : Kind) (r : Route) : List (List Char) → Route
  | [] => r
  | [last] =>
    if isDoubleDot (written last) then r.ascend.add ""
    else if isDot (written last) then r.add ""
    else r.enter kind last
  | segment :: rest =>
    if isDoubleDot (written segment) then r.ascend.follow kind rest
    else if isDot (written segment) then r.follow kind rest
    else (r.enter kind segment).follow kind rest

end Route

/-- The segments of a file without the empty ones in front. -/
def withoutLeadingEmpty (names : List String) : List String :=
  match names.dropWhile (· == "") with
  | [] => [""]
  | kept => kept

/-- The route of a path behind its first slash. -/
def routeFrom (kind : Kind) (names : List String) (text : List Char) : Route :=
  (Route.start names).follow kind (splitAll (isSlash kind.isSpecial) text)

/-- A drive is written with a colon, and dots do not lead out of it. -/
example : routeFrom .file [] "C|/../x".toList = ⟨["C:", "x"], true⟩ := by decide +kernel

/-- Behind another segment a drive is a name like any other. -/
example : routeFrom .file [""] "C|/x".toList = ⟨["", "C|", "x"], false⟩ := by decide +kernel

/-- The segments of a path behind its first slash. -/
def parseSegments (kind : Kind) (text : List Char) : List String := (routeFrom kind [] text).names

/-- The text behind its first slash, if nothing but line breaks and tabs comes before it. -/
def behindSlash? (special : Bool) (text : List Char) : Option (List Char) :=
  match text.dropWhile isBreak with
  | c :: rest => if isSlash special c then some rest else none
  | [] => none

/-- The text without one slash in front. -/
def dropSlash (special : Bool) (text : List Char) : List Char :=
  (behindSlash? special text).getD text

/-- The path of a URI with a host; only other schemes may do without. -/
def parsePath (kind : Kind) (text : List Char) : Path :=
  if text.isEmpty ∧ !kind.isSpecial then .segments []
  else .segments (parseSegments kind (dropSlash kind.isSpecial text))

/-! ### Authorities -/

/-- What ends an authority. -/
def endsAuthority (special : Bool) (c : Char) : Bool := isSlash special c || endsPath c

/-- Cuts an authority behind its last `@`. -/
def cutUser (authority : List Char) : Option (List Char × List Char) :=
  if authority.contains '@' then
    let host := (authority.reverse.takeWhile (· ≠ '@')).reverse
    some (authority.take (authority.length - host.length - 1), host)
  else none

/-- A user name, and a password behind a colon unless it is empty, with an `@` behind them. -/
def userText (info : List Char) : String :=
  let name := percentEncode userSet (info.takeWhile (· ≠ ':'))
  let password := percentEncode userSet ((info.dropWhile (· ≠ ':')).drop 1)
  if password.isEmpty then
    if name.isEmpty then "" else String.ofList name ++ "@"
  else String.ofList name ++ ":" ++ String.ofList password ++ "@"

/-- The characters up to the colon behind the host; brackets may hold colons. -/
def hostPart : Bool → List Char → List Char
  | _, [] => []
  | inside, c :: rest =>
    if c = ':' ∧ !inside then []
    else c :: hostPart (c = '[' || (inside && c ≠ ']')) rest

/-- The number behind the colon; the default of the scheme is left out. -/
def parsePortNumber (kind : Kind) (digits : List Char) : Except Fault (Option Nat) :=
  if digits.isEmpty then .ok none
  else
    match numberIn? 10 digits with
    | none => .error .portNumber
    | some number =>
      if number > 65535 then .error .portNumber
      else if kind = .web number then .ok none
      else .ok (some number)

/-- The digits behind the colon and what a backslash behind them begins. -/
def cutPort (text : List Char) : List Char × List Char :=
  let digits := text.takeWhile (· ≠ '\\')
  (digits, text.drop digits.length)

/-- The authority of a URI that is not a file's, and what of the text belongs to the path.  `more`
says whether anything follows the text: an empty user without a host may only end a URI. -/
def parseAuthority (kind : Kind) (text : List Char) (more : Bool) :
    Except Fault (Authority × List Char) := do
  let (info, rest) := (cutUser text).getD ([], text)
  if text.head? = some '@' ∧ info.isEmpty ∧ rest.isEmpty ∧ more then throw .emptyHost
  let user := userText info
  let name := hostPart false rest
  let tail := rest.drop name.length
  if name.isEmpty then
    if kind.isSpecial ∨ !tail.isEmpty ∨ user ≠ "" then throw .emptyHost
    return (⟨user, none, none⟩, [])
  let host ← if kind.isSpecial then parseHost name else parseOpaqueHost name
  let (digits, behind) := cutPort (tail.drop 1)
  let number ← parsePortNumber kind digits
  return (⟨user, some host, number⟩, behind)

/-! ### Whole URIs -/

/-- The query and the fragment that follow the path. -/
def parseTail (kind : Kind) (text : List Char) : Option String × Option String :=
  let (query, rest) := match text with
    | '?' :: rest =>
      (some (String.ofList (percentEncode (querySet kind.isSpecial) (rest.takeWhile (· ≠ '#')))),
        rest.dropWhile (· ≠ '#'))
    | _ => (none, text)
  match rest with
  | '#' :: rest => (query, some (String.ofList (percentEncode fragmentSet rest)))
  | _ => (query, none)

/-- Puts the parts together; `rest` begins with the path's end. -/
def assemble (scheme : String) (authority : Option Authority) (path : Path) (rest : List Char) :
    Uri :=
  let (query, fragment) := parseTail (.of scheme) rest
  ⟨scheme, authority, path, query, fragment⟩

/-- A URI behind `//`. -/
def parseHosted (scheme : String) (text : List Char) : Except Fault Uri := do
  let kind := Kind.of scheme
  let front := text.takeWhile fun c => !endsAuthority kind.isSpecial c
  let rest := text.drop front.length
  let (authority, behind) ← parseAuthority kind front !rest.isEmpty
  let path := parsePath kind (behind ++ rest.takeWhile fun c => !endsPath c)
  return assemble scheme (some authority) path (rest.dropWhile fun c => !endsPath c)

/-- No host at all, as most files have it. -/
def Authority.empty : Authority := ⟨"", none, none⟩

/-- The file that a text leads to from some segments, and what follows.  Drives belong to the own
machine. -/
def fileAt (authority : Authority) (names : List String) (text : List Char) : Uri :=
  let route := routeFrom .file names (text.takeWhile fun c => !endsPath c)
  assemble "file" (some (if route.onDrive then .empty else authority))
    (.segments (withoutLeadingEmpty route.names))
    (unbroken (text.dropWhile fun c => !endsPath c))

/-- A file behind `file:` and two slashes.  A drive is no host, and where the host is left out or is
the own machine, an empty segment comes first. -/
def parseHostedFile (text : List Char) : Except Fault Uri :=
  let front := text.takeWhile fun c => !endsAuthority true c
  let name := unbroken front
  let path := dropSlash true (text.drop front.length)
  if isDrive (String.ofList name) then .ok (fileAt .empty [] text)
  else if name.isEmpty then .ok (fileAt .empty [""] path)
  else do
    let host ← parseHost name
    if host = .domain "localhost" then return fileAt .empty [""] path
    return fileAt ⟨"", some host, none⟩ [] path

/-- A file behind `file:`. -/
def parseFile (text : List Char) : Except Fault Uri :=
  match behindSlash? true text with
  | none => .ok (fileAt .empty [] text)
  | some behind =>
    match behindSlash? true behind with
    | none => .ok (fileAt .empty [] behind)
    | some rest => parseHostedFile rest

/-- A URI of another scheme, behind its colon. -/
def parseOther (scheme : String) (text : List Char) : Except Fault Uri :=
  match text with
  | '/' :: '/' :: rest => parseHosted scheme rest
  | _ =>
    let path := text.takeWhile fun c => !endsPath c
    let rest := text.dropWhile fun c => !endsPath c
    .ok <| assemble scheme none
      (match path with
        | '/' :: behind => .segments (parseSegments .other behind)
        | _ => .rootless (String.ofList (percentEncode isControl path)))
      rest

/-- The URI of a text. -/
def parse (text : String) : Except Fault Uri :=
  match cutScheme? (stripped text.toList) with
  | none => .error .relative
  | some (scheme, rest) =>
    match Kind.of scheme with
    | .file => parseFile rest
    | .web _ => parseHosted scheme ((unbroken rest).dropWhile (isSlash true))
    | .other => parseOther scheme (unbroken rest)

end Refactoring.Uri
