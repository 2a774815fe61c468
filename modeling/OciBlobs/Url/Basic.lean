/-
# `Url` — the parts of a URL and its text

A URL is kept in parts, each in the encoding of its place, so that a part
can be replaced without a look at the others.  `Url.render` puts the parts
together; where the first segment of a path without an authority is empty,
`/.` keeps the path from being read as one.
-/
import OciBlobs.Url.Host
import OciBlobs.Url.Path

namespace OciBlobs

/-- What stands between `//` and the path. -/
structure Url.Authority where
  username : List Char := []
  /-- Empty when there is none. -/
  password : List Char := []
  host : Option Url.Host
  /-- Absent when it is the usual one of the scheme. -/
  port : Option Nat := none
deriving DecidableEq, Repr

structure Url where
  scheme : List Char
  authority : Option Url.Authority
  path : Url.Path
  query : Option (List Char) := none
  fragment : Option (List Char) := none
deriving DecidableEq, Repr

namespace Url

def usualPort? (scheme : List Char) : Option Nat :=
  match String.ofList scheme with
  | "http" | "ws" => some 80
  | "https" | "wss" => some 443
  | "ftp" => some 21
  | _ => none

def familyOf (scheme : List Char) : Family :=
  match String.ofList scheme with
  | "http" | "https" | "ws" | "wss" | "ftp" => .web
  | "file" => .file
  | _ => .other

def family (url : Url) : Family :=
  familyOf url.scheme

/-- Username and password with their marks. -/
def Authority.userinfo (authority : Authority) : List Char :=
  if authority.username.isEmpty && authority.password.isEmpty then []
  else
    authority.username
      ++ (if authority.password.isEmpty then [] else ':' :: authority.password) ++ ['@']

def Authority.render (authority : Authority) : List Char :=
  authority.userinfo
    ++ (match authority.host with
      | some host => host.render
      | none => [])
    ++ (match authority.port with
      | some port => ':' :: (toString port).toList
      | none => [])

/-- Scheme and authority, up to the path. -/
def origin (url : Url) : List Char :=
  url.scheme ++ ':' ::
    match url.authority with
    | some authority => '/' :: '/' :: authority.render
    | none =>
      match url.path with
      | .rooted ([] :: _ :: _) => ['/', '.']
      | _ => []

def renderQuery : Option (List Char) → List Char
  | some query => '?' :: query
  | none => []

def renderFragment : Option (List Char) → List Char
  | some fragment => '#' :: fragment
  | none => []

def chars (url : Url) : List Char :=
  url.origin ++ url.path.render ++ renderQuery url.query ++ renderFragment url.fragment

def text (url : Url) : String :=
  String.ofList url.chars

def host? (url : Url) : Option Host :=
  url.authority.bind (·.host)

def port? (url : Url) : Option Nat :=
  url.authority.bind (·.port)

def username (url : Url) : List Char :=
  (url.authority.map (·.username)).getD []

def password (url : Url) : List Char :=
  (url.authority.map (·.password)).getD []

/-- The port that a URL is served at. -/
def effectivePort? (url : Url) : Option Nat :=
  url.port?.or (usualPort? url.scheme)

/-- Whether no other URL can be given relative to this one. -/
def isFlat (url : Url) : Bool :=
  match url.authority, url.path with
  | none, .flat _ => true
  | _, _ => false

/-- A URL with another path, read as text in place of the old one. -/
def withPath (url : Url) (text : List Char) : Url :=
  let isMark := ((Path.unbroken text).head?).any fun c => c == '?' || c == '#'
  { url with
    path := if isMark && !url.family.isSpecial then .rooted []
      else .afterAuthority url.family text }

end Url

end OciBlobs
