import ProtocolGateway.ProtocolError
import ProtocolGateway.Web.Url
import ProtocolGateway.Text.Quoted

/-!
Canonical names of resources: `scheme://authority/path?query`, where the scheme is the protocol that
serves the resource and the parameters are sorted by name. The written form is the key under which
subscriptions and cached replies are kept.
-/

namespace ProtocolGateway

structure ResourceUri where
  scheme : String
  authority : String
  path : String
  query : List (String × String)
  deriving DecidableEq, Repr, Inhabited

namespace ResourceUri

def maxPathLength : Nat := 2048

def missingAuthority (text : String) : ProtocolError :=
  .invalidUri ("missing authority in " ++ Text.quoted text)

/-- Puts pairs in the order of their names; pairs of one name keep theirs. -/
def sortQuery (pairs : List (String × String)) : List (String × String) :=
  pairs.mergeSort fun a b => a.1 ≤ b.1

def authorityText (host : String) : Option Nat → String
  | some port => host ++ ":" ++ toString port
  | none => host

def ofUrl (raw : String) : Except ProtocolError ResourceUri :=
  match Web.Url.parse raw with
  | .error e => .error (.invalidUri (raw ++ ": " ++ e.message))
  | .ok url =>
    match url.host with
    | none | some "" => .error (missingAuthority raw)
    | some host =>
      .ok {
        scheme := url.scheme
        authority := authorityText host url.port
        path := if url.path = "" then "/" else url.path
        query := sortQuery (Web.Form.decode (url.query.getD "")) }

def dropSlashes (cs : List Char) : List Char := cs.dropWhile (· == '/')

def hasSchemeMark : List Char → Bool
  | ':' :: '/' :: '/' :: _ => true
  | _ :: rest => hasSchemeMark rest
  | [] => false

/-- The absolute form of `/protocol/authority/path?query`, or `none` without a second part. -/
def absoluteForm? (path : String) : Option String :=
  let trimmed := dropSlashes path.toList
  let scheme := trimmed.takeWhile (· ≠ '/')
  match trimmed.drop scheme.length with
  | [] => none
  | _ :: rest =>
    let authority := rest.takeWhile fun c => c ≠ '/' ∧ c ≠ '?'
    let remainder := rest.drop authority.length
    some (String.ofList (scheme ++ [':', '/', '/'] ++ authority ++ '/' :: dropSlashes remainder))

def parse (path : String) : Except ProtocolError ResourceUri :=
  if path.utf8ByteSize > maxPathLength then .error (.invalidUri "path too long")
  else if hasSchemeMark path.toList then ofUrl (String.ofList (dropSlashes path.toList))
  else match absoluteForm? path with
    | none => .error (missingAuthority path)
    | some raw => ofUrl raw

def joinParts (scheme authority path : String) : String :=
  match path.toList.head? with
  | none | some '/' | some '?' => scheme ++ "://" ++ authority ++ path
  | some _ => scheme ++ "://" ++ authority ++ "/" ++ path

def ofParts (scheme authority path : String) : Except ProtocolError ResourceUri :=
  ofUrl (joinParts scheme authority path)

def pathAndQuery (u : ResourceUri) : String :=
  if u.query.isEmpty then u.path else u.path ++ "?" ++ Web.Form.encode u.query

def text (u : ResourceUri) : String := u.scheme ++ "://" ++ u.authority ++ u.pathAndQuery

end ResourceUri

end ProtocolGateway
