/-
# `Url.Parser` — reading a URL, on its own or relative to another

Blanks around the text and line breaks within it do not count.  A text with
a scheme is a URL of its own; one without, or one that repeats the scheme of
a special base without two slashes, is taken relative to the base.  In each
case what comes before the first `?` or `#` is authority and path.
-/
import OciBlobs.Url.Basic

namespace OciBlobs.Url

/-- The text of a reference behind its scheme: up to the query, the query,
the fragment. -/
structure Tail where
  /-- What comes before the query, with its breaks. -/
  written : List Char
  query : Option (List Char)
  fragment : Option (List Char)
deriving DecidableEq, Repr

/-- Cuts at the first `#`, and before it at the first `?`. -/
def Tail.ofChars (text : List Char) : Tail :=
  let beforeFragment := text.takeWhile (· != '#')
  { written := beforeFragment.takeWhile (· != '?')
    query := match beforeFragment.dropWhile (· != '?') with
      | [] => none
      | _ :: query => some (Path.unbroken query)
    fragment := match text.dropWhile (· != '#') with
      | [] => none
      | _ :: fragment => some (Path.unbroken fragment) }

def Tail.main (tail : Tail) : List Char :=
  Path.unbroken tail.written

/-- The end of a tail's main part with its breaks. -/
def Tail.ending (tail : Tail) (text : List Char) : List Char :=
  Path.skip (tail.main.length - text.length) tail.written

/-- Whether a query or fragment follows. -/
def Tail.goesOn (tail : Tail) : Bool :=
  tail.query.isSome || tail.fragment.isSome

def encodeQuery (family : Family) (query : List Char) : List Char :=
  encode (if family.isSpecial then inSpecialQuerySet else inQuerySet) query

def withTail (url : Url) (tail : Tail) : Url :=
  { url with
    query := tail.query.map (encodeQuery url.family)
    fragment := tail.fragment.map (encode inFragmentSet) }

/-- A text without the blanks around it. -/
def trim (text : List Char) : List Char :=
  let isEdge (c : Char) : Bool := c.toNat ≤ 0x20
  ((text.dropWhile isEdge).reverse.dropWhile isEdge).reverse

/-- Characters of a scheme after its first letter. -/
def isSchemeChar (c : Char) : Bool :=
  c.isAlphanum || c == '+' || c == '-' || c == '.'

/-- The scheme a text begins with, in lower case, and what follows its colon. -/
def cutScheme? (text : List Char) : Option (List Char × List Char) :=
  match text with
  | [] => none
  | c :: _ =>
    if c.isAlpha then
      match text.dropWhile isSchemeChar with
      | ':' :: rest => some ((text.takeWhile isSchemeChar).map Char.toLower, rest)
      | _ => none
    else none

/-- The port of an authority, with or without its colon. -/
def parsePort (scheme : List Char) : List Char → Except Fault (Option Nat)
  | [] => .ok none
  | ':' :: digits =>
    if !digits.all Char.isDigit then .error .invalidPort
    else if digits.isEmpty then .ok none
    else
      match Ipv4.ofDigits? 10 digits with
      | some port =>
        if 65535 < port then .error .invalidPort
        else .ok (if usualPort? scheme = some port then none else some port)
      | none => .error .invalidPort
  | _ => .error .invalidPort

/-- Where the host of an authority ends: at the first colon outside brackets. -/
def cutHost : Bool → List Char → List Char × List Char
  | _, [] => ([], [])
  | inside, c :: rest =>
    if c = ':' ∧ inside = false then ([], c :: rest)
    else
      let cut := cutHost (if c = '[' then true else if c = ']' then false else inside) rest
      (c :: cut.1, cut.2)

/-- Cuts an authority at its last at-sign. -/
def cutUserinfo (authority : List Char) : Option (List Char) × List Char :=
  let after := (authority.reverse.takeWhile (· != '@')).reverse
  match authority.reverse.dropWhile (· != '@') with
  | [] => (none, after)
  | _ :: before => (some before.reverse, after)

def parseUserinfo (userinfo : List Char) : List Char × List Char :=
  (encode inUserinfoSet (userinfo.takeWhile (· != ':')),
    encode inUserinfoSet ((userinfo.dropWhile (· != ':')).drop 1))

/-- An authority; `ended` says that nothing at all follows it. -/
def parseAuthority (scheme : List Char) (text : List Char) (ended : Bool) :
    Except Fault Authority := do
  let family := familyOf scheme
  let cut := cutUserinfo text
  if cut.1 = some [] ∧ cut.2 = [] ∧ ended = false then .error .emptyHost
  else
    let user := parseUserinfo (cut.1.getD [])
    let hostPort := cutHost false cut.2
    let host ←
      if family.isSpecial then
        if hostPort.1.isEmpty then .error .emptyHost else some <$> Host.parse hostPort.1
      else Host.parseVerbatim hostPort.1
    if host.isNone && !hostPort.2.isEmpty then .error .emptyHost
    else
      let port ← parsePort scheme hostPort.2
      if host.isNone && !(user.1.isEmpty && user.2.isEmpty) then .error .emptyHost
      else .ok ⟨user.1, user.2, host, port⟩

/-- Where the port of an authority ends: at a backslash behind the host. -/
def cutAuthority (text : List Char) : List Char × List Char :=
  let hostPort := cutHost false (cutUserinfo text).2
  let behind := hostPort.2.dropWhile (· != '\\')
  (text.take (text.length - behind.length), behind)

/-- What follows the two slashes before an authority. -/
def parseBehindSlashes (scheme : List Char) (tail : Tail) (main : List Char) :
    Except Fault Url := do
  let family := familyOf scheme
  let cut := cutAuthority (main.takeWhile (!family.isSlash ·))
  let pathText := cut.2 ++ main.dropWhile (!family.isSlash ·)
  let authority ← parseAuthority scheme cut.1 (pathText.isEmpty && !tail.goesOn)
  .ok (withTail
    { scheme := scheme, authority := some authority, path := .afterAuthority family pathText } tail)

def segments (url : Url) : List (List Char) :=
  match url.path with
  | .rooted segments => segments
  | .flat _ => []

/-- A tail relative to a base that is neither flat nor a file. -/
def parseRelative (base : Url) (tail : Tail) : Except Fault Url :=
  let family := base.family
  let isAnySlash (c : Char) : Bool := c == '/' || c == '\\'
  match tail.main with
  | [] =>
    match tail.query with
    | some _ => .ok (withTail base tail)
    | none => .ok { base with fragment := tail.fragment.map (encode inFragmentSet) }
  | c :: rest =>
    if isAnySlash c then
      if 2 ≤ (tail.main.takeWhile isAnySlash).length then
        match tail.main with
        | '/' :: '/' :: main => parseBehindSlashes base.scheme tail main
        | main => parseBehindSlashes base.scheme tail (main.dropWhile isAnySlash)
      else .ok (withTail { base with path := .rooted (Path.extend family [] rest) } tail)
    else
      .ok (withTail
        { base with path := .rooted (Path.extend family base.segments.dropLast (c :: rest)) } tail)

/-- The authority of a file: its host alone, and none for the machine itself. -/
def parseFileHost (text : List Char) : Except Fault (Option Host) :=
  if text.isEmpty then .ok none
  else do
    let host ← Host.parse text
    .ok (if host = .domain ['l', 'o', 'c', 'a', 'l', 'h', 'o', 's', 't'] then none else some host)

/-- Whether a path begins with a segment that is a drive letter. -/
def beginsWithDriveLetter (main : List Char) : Bool :=
  Path.isDriveLetter (main.takeWhile (!Family.file.isSlash ·))

def fileUrl (host : Option Host) (segments : List (List Char)) : Url :=
  { scheme := ['f', 'i', 'l', 'e'], authority := some { host := host }, path := .rooted segments }

/-- A file URL behind its two slashes.  Behind a host one slash begins the
path, and a path that comes upon a drive has no host; without a host the
path is all that follows. -/
def fileBehindSlashes (tail : Tail) (main : List Char) : Except Fault Url := do
  let hostText := main.takeWhile (!Family.file.isSlash ·)
  let path := main.dropWhile (!Family.file.isSlash ·)
  if Path.isDriveLetter hostText then
    .ok (withTail (fileUrl none (Path.extend .file [] (tail.ending main))) tail)
  else
    match ← parseFileHost hostText with
    | none => .ok (withTail (fileUrl none (Path.extend .file [] (tail.ending path))) tail)
    | some host =>
      let walk := Path.Walk.along .file {} (Path.cut .file (tail.ending (path.drop 1)))
      .ok (withTail
        (fileUrl (if walk.onDrive then none else some host) (Path.finish .file walk)) tail)

/-- A file URL whose path is relative to the directory of a base. -/
def fileRelative (base : Url) (tail : Tail) : Url :=
  let onDrive := base.segments.getLast?.any Path.isNormalDriveLetter
  let next := Path.cut .file tail.written
  let walk :=
    if onDrive && 1 < base.segments.length then
      Path.Walk.alongDrive .file ⟨base.segments, false⟩ next
    else if onDrive then Path.Walk.along .file ⟨base.segments, false⟩ next
    else Path.Walk.along .file ⟨base.segments.dropLast, false⟩ next
  withTail { base with path := .rooted (Path.finish .file walk) } tail

/-- What follows `file:`, on its own or relative to a file. -/
def parseFile (base : Option Url) (tail : Tail) : Except Fault Url :=
  let slash := Family.file.isSlash
  match tail.main with
  | [] =>
    match base with
    | none => .ok (withTail (fileUrl none [[]]) tail)
    | some base =>
      match tail.query with
      | some _ => .ok (withTail base tail)
      | none => .ok { base with fragment := tail.fragment.map (encode inFragmentSet) }
  | c :: rest =>
    if slash c then
      match rest with
      | d :: main =>
        if slash d then fileBehindSlashes tail main else .ok (withTail (rooted rest) tail)
      | [] => .ok (withTail (rooted rest) tail)
    else
      match base with
      | none => .ok (withTail (fileUrl none (Path.extend .file [] tail.written)) tail)
      | some base =>
        if beginsWithDriveLetter (c :: rest) then
          .ok (withTail (fileUrl none (Path.extend .file [] tail.written)) tail)
        else .ok (fileRelative base tail)
where
  /-- A path from the root, on the drive or host of the base. -/
  rooted (rest : List Char) : Url :=
    let path := tail.ending rest
    match base with
    | none => fileUrl none (Path.extend .file [] path)
    | some base =>
      if beginsWithDriveLetter rest then fileUrl none (Path.extend .file [] path)
      else
        match base.segments with
        | first :: _ =>
          if Path.isNormalDriveLetter first then fileUrl none (Path.extend .file [first] path)
          else fileUrl base.host? (Path.extend .file [] path)
        | [] => fileUrl base.host? (Path.extend .file [] path)

/-- A URL of a scheme that is not special. -/
def parseOther (scheme : List Char) (tail : Tail) : Except Fault Url :=
  match tail.main with
  | '/' :: '/' :: main => parseBehindSlashes scheme tail main
  | '/' :: rest =>
    .ok (withTail
      { scheme := scheme, authority := none, path := .rooted (Path.extend .other [] rest) } tail)
  | main =>
    .ok (withTail
      { scheme := scheme, authority := none, path := .flat (encode isControl main) } tail)

/-- A URL with a scheme of its own. -/
def parseAbsolute (base : Option Url) (scheme : List Char) (tail : Tail) : Except Fault Url :=
  let isAnySlash (c : Char) : Bool := c == '/' || c == '\\'
  match familyOf scheme with
  | .file => parseFile (base.filter fun base => base.scheme == scheme) tail
  | .web =>
    match base with
    | some base =>
      if base.scheme = scheme ∧ (tail.main.takeWhile isAnySlash).length < 2 then
        parseRelative base tail
      else parseBehindSlashes scheme tail (tail.main.dropWhile isAnySlash)
    | none => parseBehindSlashes scheme tail (tail.main.dropWhile isAnySlash)
  | .other => parseOther scheme tail

/-- A URL without a scheme of its own. -/
def parseWithoutScheme (base : Option Url) (tail : Tail) : Except Fault Url :=
  match base with
  | none => .error .relativeWithoutBase
  | some base =>
    if tail.main = [] ∧ tail.query = none ∧ tail.fragment.isSome then
      .ok { base with fragment := tail.fragment.map (encode inFragmentSet) }
    else if base.isFlat then .error .relativeToOpaqueBase
    else if base.family = .file then parseFile (some base) tail
    else parseRelative base tail

/-- The URL that a text writes, relative to a base if there is one. -/
def parseFrom (base : Option Url) (text : String) : Except Fault Url :=
  let written := trim text.toList
  let unbroken := Path.unbroken written
  match cutScheme? unbroken with
  | some (scheme, rest) =>
    parseAbsolute base scheme (Tail.ofChars (Path.skip (unbroken.length - rest.length) written))
  | none => parseWithoutScheme base (Tail.ofChars written)

def parse (text : String) : Except Fault Url :=
  parseFrom none text

/-- The URL that a text writes relative to this one. -/
def join (base : Url) (text : String) : Except Fault Url :=
  parseFrom (some base) text

def pairs (url : Url) : List (List Char × List Char) :=
  Form.pairs (url.query.getD [])

/-- A URL with a query of pairs. -/
def withPairs (url : Url) (pairs : List (List Char × List Char)) : Url :=
  { url with query := some (Form.render pairs) }

end OciBlobs.Url
