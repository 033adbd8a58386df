import ProtocolGateway.Web.Host
import ProtocolGateway.Web.Form

/-!
Absolute URLs. A text is read in five steps: scheme, user information, host and port, path, query.
Web schemes take backslashes for slashes, have a default port and always a path; other schemes keep
theirs as written. Dot segments are resolved while the path is read.
-/

namespace ProtocolGateway.Web

inductive SchemeClass where
  | file
  | web
  | other
  deriving DecidableEq, Repr

def SchemeClass.of (scheme : String) : SchemeClass :=
  if scheme = "file" then .file
  else if ["http", "https", "ws", "wss", "ftp"].contains scheme then .web
  else .other

def SchemeClass.isSpecial (k : SchemeClass) : Bool := k != .other

def defaultPort? (scheme : String) : Option Nat :=
  if scheme = "http" ∨ scheme = "ws" then some 80
  else if scheme = "https" ∨ scheme = "wss" then some 443
  else if scheme = "ftp" then some 21
  else none

structure Url where
  scheme : String
  host : Option String
  port : Option Nat
  path : String
  query : Option String
  deriving DecidableEq, Repr

namespace Url

/-! Cleaning -/

def isEdge (c : Char) : Bool := c.toNat ≤ 0x20

def isSkipped (c : Char) : Bool := c == '\t' || c == '\n' || c == '\r'

def trimEdges (cs : List Char) : List Char :=
  ((cs.dropWhile isEdge).reverse.dropWhile isEdge).reverse

/-- Controls and spaces at both ends go, tabs and line ends everywhere. -/
def clean (raw : String) : List Char := (trimEdges raw.toList).filter (!isSkipped ·)

/-! Scheme -/

def isSchemeChar (c : Char) : Bool :=
  Text.Ascii.isLetter c || Text.Ascii.isDigit c || c == '+' || c == '-' || c == '.'

def splitScheme? (cs : List Char) : Option (String × List Char) :=
  let name := cs.takeWhile isSchemeChar
  match name.head?, cs.drop name.length with
  | some c, ':' :: rest =>
    if Text.Ascii.isLetter c then some (String.ofList (name.map Text.Ascii.lowerChar), rest) else none
  | _, _ => none

/-! Authority -/

def endsAuthority (k : SchemeClass) (c : Char) : Bool :=
  c == '/' || c == '?' || c == '#' || (k.isSpecial && c == '\\')

/-- What follows the last at-sign of the authority, and whether user information stood before it.
An at-sign with nothing after it in front of a path names no host. -/
def skipUserInfo (k : SchemeClass) (cs : List Char) : Except UrlError (Bool × List Char) :=
  let authority := cs.takeWhile (!endsAuthority k ·)
  let host := (authority.reverse.takeWhile (· ≠ '@')).reverse
  if host.length = authority.length then .ok (false, cs)
  else
    let info := authority.take (authority.length - host.length - 1)
    let rest := cs.drop (authority.length - host.length)
    if info.isEmpty then
      match rest with
      | c :: _ => if endsAuthority k c then .error .emptyHost else .ok (false, rest)
      | [] => .ok (false, rest)
    else
      -- A lone colon is an empty name and an empty password.
      .ok (info != [':'], rest)

/-- Cuts the host off: brackets keep a colon from ending it. -/
def splitHost (k : SchemeClass) (inBrackets : Bool) : List Char → List Char × List Char
  | [] => ([], [])
  | c :: rest =>
    if endsAuthority k c || (c == ':' && !inBrackets) then ([], c :: rest)
    else
      let inside := if c == '[' then true else if c == ']' then false else inBrackets
      let (host, after) := splitHost k inside rest
      (c :: host, after)

def endsPort (c : Char) : Bool := c == '/' || c == '\\' || c == '?' || c == '#'

def readPort (scheme : String) (cs : List Char) : Except UrlError (Option Nat × List Char) :=
  let digits := cs.takeWhile Text.Ascii.isDigit
  let rest := cs.drop digits.length
  let ended := match rest with
    | [] => true
    | c :: _ => endsPort c
  let port := Text.Ascii.natOf digits
  if port > 65535 || !ended then .error .port
  else .ok (if digits.isEmpty ∨ some port = defaultPort? scheme then none else some port, rest)

/-- Host and port of an authority. A host may be missing only where the scheme is no web scheme,
and then neither a port nor user information may stand with it. -/
def readAuthority (scheme : String) (k : SchemeClass) (cs : List Char) :
    Except UrlError (Option String × Option Nat × List Char) := do
  let (hasUser, cs) ← skipUserInfo k cs
  let (hostText, rest) := splitHost k false cs
  if hostText.isEmpty then
    match rest with
    | ':' :: _ => .error .emptyHost
    | _ => if k.isSpecial ∨ hasUser then .error .emptyHost else .ok (none, none, rest)
  else
    let host ← if k.isSpecial then Host.ofDomain hostText else Host.ofOpaque hostText
    match rest with
    | ':' :: afterColon =>
      let (port, rest) ← readPort scheme afterColon
      .ok (some host, port, rest)
    | _ => .ok (some host, none, rest)

/-! Path -/

def isDriveLetter : List Char → Bool
  | [c, mark] => Text.Ascii.isLetter c && (mark == ':' || mark == '|')
  | _ => false

def isNormalDriveLetter : List Char → Bool
  | [c, ':'] => Text.Ascii.isLetter c
  | _ => false

def lastSegment (path : List Char) : List Char := (path.reverse.takeWhile (· ≠ '/')).reverse

def upToLastSlash (path : List Char) : List Char := (path.reverse.dropWhile (· ≠ '/')).reverse

/-- One step up. The slash at the end goes first, unless it is the root or follows a drive letter;
then the last segment. -/
def stepUp (k : SchemeClass) (path : List Char) : List Char :=
  let body := path.dropLast
  let path :=
    if path.getLast? = some '/' ∧ body.contains '/' ∧ !isDriveLetter (lastSegment body) then body
    else path
  if k = .file ∧ isNormalDriveLetter (lastSegment path) then path else upToLastSlash path

/-- Percent escapes of the dot count as the dot. -/
def plainDots : List Char → List Char
  | '%' :: '2' :: 'e' :: rest | '%' :: '2' :: 'E' :: rest => '.' :: plainDots rest
  | c :: rest => c :: plainDots rest
  | [] => []

def withSlash (path : List Char) : List Char := if path.getLast? = some '/' then path else path ++ ['/']

/-- The path so far, and whether a drive letter has taken the host's place. -/
structure PathReading where
  path : List Char
  hostDropped : Bool := false

def addSegment (k : SchemeClass) (r : PathReading) (segment : List Char) (slash : Bool) : PathReading :=
  let dots := plainDots segment
  if dots = ['.', '.'] then
    let up := stepUp k r.path
    { r with path := if slash then withSlash up else up }
  else if dots = ['.'] then { r with path := withSlash r.path }
  else
    let tail := if slash then ['/'] else []
    if k = .file ∧ r.path.length = 1 ∧ isDriveLetter segment then
      ⟨r.path ++ (segment.take 1 ++ [':'] ++ tail), true⟩
    else if k = .file ∧ r.path.length = 1 ∧ isNormalDriveLetter (segment.take 2) then
      -- A drive letter with more behind it gets a slash of its own.
      { r with path := r.path ++ (segment.take 2 ++ ['/'] ++ segment.drop 2 ++ tail) }
    else { r with path := r.path ++ segment ++ tail }

def endsPath (c : Char) : Bool := c == '?' || c == '#'

def isSlash (k : SchemeClass) (c : Char) : Bool := c == '/' || (k.isSpecial && c == '\\')

/-- Reads segment after segment; `segment` holds the raw one so far in reverse. -/
def readSegments (k : SchemeClass) (r : PathReading) (segment : List Char) :
    List Char → PathReading × List Char
  | [] => (addSegment k r (Percent.encode Percent.isEscapedInPath segment.reverse) false, [])
  | c :: rest =>
    if endsPath c then
      (addSegment k r (Percent.encode Percent.isEscapedInPath segment.reverse) false, c :: rest)
    else if isSlash k c then
      readSegments k (addSegment k r (Percent.encode Percent.isEscapedInPath segment.reverse) true) []
        rest
    else readSegments k r (c :: segment) rest

def squeezeFile (k : SchemeClass) (path : List Char) : List Char :=
  if k = .file then '/' :: path.dropWhile (· == '/') else path

def readPath (k : SchemeClass) (cs : List Char) : PathReading × List Char :=
  match cs with
  | c :: rest =>
    if !k.isSpecial && endsPath c then (⟨[], false⟩, cs)
    else
      let body := if isSlash k c then rest else cs
      let (r, after) := readSegments k ⟨['/'], false⟩ [] body
      ({ r with path := squeezeFile k r.path }, after)
  | [] => if k.isSpecial then (⟨['/'], false⟩, []) else (⟨[], false⟩, [])

/-! Query -/

def readQuery : List Char → Option String
  | '?' :: rest => some (String.ofList (rest.takeWhile (· ≠ '#')))
  | _ => none

/-! The whole -/

def hostless (scheme : String) : Url := ⟨scheme, none, none, "", none⟩

/-- A file URL has a host only after two slashes; a drive letter or `localhost` there is none. -/
def ofFile (cs : List Char) : Except UrlError Url :=
  match cs with
  | a :: b :: rest =>
    if isSlash .file a && isSlash .file b then
      let hostText := rest.takeWhile fun c => !(c == '/' || c == '\\' || c == '?' || c == '#')
      if isDriveLetter hostText || hostText.isEmpty then .ok (hostless "file")
      else do
        let host ← Host.ofDomain hostText
        let (r, after) := readPath .file (rest.drop hostText.length)
        if host = "localhost" ∨ r.hostDropped then .ok (hostless "file")
        else .ok ⟨"file", some host, none, String.ofList r.path, readQuery after⟩
    else .ok (hostless "file")
  | _ => .ok (hostless "file")

def ofAuthority (scheme : String) (k : SchemeClass) (cs : List Char) : Except UrlError Url := do
  let (host, port, rest) ← readAuthority scheme k cs
  let (r, after) := readPath k rest
  .ok ⟨scheme, host, port, String.ofList r.path, readQuery after⟩

def parse (raw : String) : Except UrlError Url :=
  match splitScheme? (clean raw) with
  | none => .error .relativeWithoutBase
  | some (scheme, rest) =>
    match SchemeClass.of scheme with
    | .file => ofFile rest
    | .web => ofAuthority scheme .web (rest.dropWhile fun c => c == '/' || c == '\\')
    | .other =>
      match rest with
      | '/' :: '/' :: after => ofAuthority scheme .other after
      | _ => .ok (hostless scheme)

end Url

end ProtocolGateway.Web
