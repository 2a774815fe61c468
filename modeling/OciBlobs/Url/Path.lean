/-
# `Url.Path` — segments, and the dots that walk among them

A path is a list of segments, or text that cannot be taken apart.  Reading a
path walks along its segments with a stack: one dot stays, two dots go back
one segment, any other segment is encoded and pushed.  Two dots never leave
the root, and they do not go back over a drive letter.

A text may hold line breaks and tabs anywhere.  They do not count, except
behind a drive letter at the front of a file path, which they end as a slash
does.
-/
import OciBlobs.Url.Form

namespace OciBlobs.Url

inductive Family
  /-- `http` and its kin. -/
  | web
  /-- Local files. -/
  | file
  /-- All other schemes. -/
  | other
deriving DecidableEq, Repr

def Family.isSpecial : Family → Bool
  | .other => false
  | _ => true

def Family.isSlash (family : Family) (c : Char) : Bool :=
  c == '/' || (c == '\\' && family.isSpecial)

inductive Path
  /-- Segments, each behind a slash. -/
  | rooted (segments : List (List Char))
  /-- Text that cannot be taken apart. -/
  | flat (text : List Char)
deriving DecidableEq, Repr

namespace Path

def render : Path → List Char
  | .rooted segments => segments.flatMap ('/' :: ·)
  | .flat text => text

/-- The spellings of one dot. -/
def isSingleDot (segment : List Char) : Bool :=
  segment == ['.'] || segment.map Char.toLower == ['%', '2', 'e']

/-- The spellings of two dots. -/
def isDoubleDot (segment : List Char) : Bool :=
  [['.', '.'], ['.', '%', '2', 'e'], ['%', '2', 'e', '.'],
    ['%', '2', 'e', '%', '2', 'e']].contains (segment.map Char.toLower)

/-- A letter and a colon or bar. -/
def isDriveLetter : List Char → Bool
  | [letter, mark] => letter.isAlpha && (mark == ':' || mark == '|')
  | _ => false

/-- A letter and a colon. -/
def isNormalDriveLetter (segment : List Char) : Bool :=
  isDriveLetter segment && segment.getLast? == some ':'

/-- Whether two dots stay in front of a segment: it is a drive letter, or
begins with one that a backslash ends. -/
def holdsBack (segment : List Char) : Bool :=
  isDriveLetter (segment.take 2) && (segment.drop 2).head?.all (· == '\\')

/-- Line breaks and tabs. -/
def isBreak (c : Char) : Bool :=
  c == '\t' || c == '\n' || c == '\r'

/-- A text without breaks. -/
def unbroken (text : List Char) : List Char :=
  text.filter (!isBreak ·)

/-- What follows the first `count` characters of a text, not counting
breaks. -/
def skip : Nat → List Char → List Char
  | 0, text => text
  | _, [] => []
  | count + 1, c :: rest => if isBreak c then skip (count + 1) rest else skip count rest

/-- A normal drive letter that breaks part from the rest of its segment, and
that rest. -/
def brokenDrive? (segment : List Char) : Option (List Char × List Char) :=
  let drive := (unbroken segment).take 2
  let behind := skip 2 segment
  if isNormalDriveLetter drive && behind.head?.any isBreak && !(unbroken behind).isEmpty then
    some (drive, unbroken behind)
  else none

structure Walk where
  /-- The segments that lead to where it stands. -/
  stack : List (List Char) := []
  /-- It has come upon a drive letter at the front. -/
  onDrive : Bool := false
deriving DecidableEq, Repr

namespace Walk

/-- One segment back, unless the last one holds back. -/
def back (walk : Walk) : Walk :=
  match walk.stack.getLast? with
  | some last => if holdsBack last then walk else { walk with stack := walk.stack.dropLast }
  | none => walk

/-- The walk with encoded segments added to its stack. -/
def add (walk : Walk) (segments : List (List Char)) : Walk :=
  { walk with stack := walk.stack ++ segments }

/-- One segment on; at the front of a file path a drive letter is made
normal. -/
def push (family : Family) (walk : Walk) (segment : List Char) : Walk :=
  let encoded := encode inPathSet (unbroken segment)
  if family = .file ∧ walk.stack = [] then
    match brokenDrive? segment with
    | some (drive, rest) => walk.add [drive, encode inPathSet rest]
    | none =>
      if isDriveLetter encoded then ⟨[encoded.take 1 ++ [':']], true⟩ else walk.add [encoded]
  else walk.add [encoded]

/-- Goes along segments; the last one always leaves a segment. -/
def along (family : Family) : Walk → List (List Char) → Walk
  | walk, [] => walk
  | walk, [last] =>
    let segment := unbroken last
    if isDoubleDot segment then walk.back.add [[]]
    else if isSingleDot segment then walk.add [[]]
    else walk.push family last
  | walk, next :: rest =>
    let segment := unbroken next
    if isDoubleDot segment then along family walk.back rest
    else if isSingleDot segment then along family walk rest
    else along family (walk.push family next) rest

/-- Goes along segments from a drive letter that is not at the front: the
first segment is written behind the letter without a slash. -/
def alongDrive (family : Family) (walk : Walk) : List (List Char) → Walk
  | [] => walk
  | first :: rest =>
    let segment := unbroken first
    if isDoubleDot segment then along family walk rest
    else if isSingleDot segment then
      if rest = [] then walk.add [[]] else along family walk rest
    else
      let drive := walk.stack.getLast?.getD []
      let joined := drive ++ encode inPathSet segment
      along family { walk with stack := walk.stack.dropLast ++ [joined] } rest

end Walk

/-- The segments of a text, between slashes of either kind. -/
def cut (family : Family) (text : List Char) : List (List Char) :=
  Text.cutAt '/' (text.map fun c => if family.isSlash c then '/' else c)

/-- The empty segments that a file path begins with, left out. -/
def trimFront (segments : List (List Char)) : List (List Char) :=
  match segments.dropWhile List.isEmpty with
  | [] => [[]]
  | trimmed => trimmed

/-- The segments where a walk ends. -/
def finish (family : Family) (walk : Walk) : List (List Char) :=
  if family = .file then trimFront walk.stack else walk.stack

/-- A text, walked along from a stack. -/
def extend (family : Family) (stack : List (List Char)) (text : List Char) :
    List (List Char) :=
  finish family (Walk.along family ⟨stack, false⟩ (cut family text))

/-- The path behind an authority. -/
def afterAuthority (family : Family) (text : List Char) : Path :=
  match text.dropWhile isBreak with
  | [] => if family.isSpecial then .rooted (extend family [] []) else .rooted []
  | c :: rest =>
    if family.isSlash c then .rooted (extend family [] rest)
    else .rooted (extend family [] (c :: rest))

end Path

end OciBlobs.Url
