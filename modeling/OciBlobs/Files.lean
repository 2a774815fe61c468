/-
# `Files` — a working directory

Files are kept by the place they have: where one starts, which is the
working directory, one of those above it or the root, and the names that
lead on from there.  A path is walked name by name, and where the walk ends
says which error it ends with.  Nothing is known of what lies above the
working directory but that there are directories.
-/
import OciBlobs.Bytes.Utf8
import OciBlobs.Failure
import OciBlobs.Text.Split

namespace OciBlobs

inductive Entry
  | file (content : Bytes)
  | directory
deriving DecidableEq, Repr

namespace Files

/-- Where names lead on from. -/
inductive Origin
  | root
  /-- The directory that many levels above the working directory. -/
  | above (levels : Nat)
deriving DecidableEq, Repr

/-- A place: names that lead on from an origin. -/
structure Place where
  origin : Origin := .above 0
  names : List String := []
deriving DecidableEq, Repr

namespace Place

/-- The place that a name leads on to. -/
def down (place : Place) (name : String) : Place :=
  { place with names := place.names ++ [name] }

/-- The directory that a place lies in; the root lies in itself. -/
def up (place : Place) : Place :=
  match place.names, place.origin with
  | [], .above levels => ⟨.above (levels + 1), []⟩
  | names, origin => ⟨origin, names.dropLast⟩

/-- Whether one comes through a place on the way to another. -/
def leadsTo (place other : Place) : Bool :=
  place.origin == other.origin && place.names.isPrefixOf other.names

end Place

end Files

/-- A working directory: entries by their places. -/
structure Files where
  entries : List (Files.Place × Entry) := []
deriving DecidableEq, Repr

namespace Files

def notFound : IoError := .system 2

/-- Something on the way is not a directory. -/
def notDirectory : IoError := .system 20

def isDirectory : IoError := .system 21

def nameTooLong : IoError := .system 36

def unusablePath : IoError := .text "file name contained an unexpected NUL byte"

/-- What is at a place; an origin is a directory, and so is what entries
lie below. -/
def find? (files : Files) (place : Place) : Option Entry :=
  match files.entries.lookup place with
  | some entry => some entry
  | none =>
    if place.names.isEmpty || files.entries.any (fun entry => place.leadsTo entry.1) then
      some .directory
    else none

/-- The same files with an entry, new or in place of an old one. -/
def put (files : Files) (place : Place) (entry : Entry) : Files where
  entries := (files.entries.filter fun old => old.1 != place) ++ [(place, entry)]

def isLong (name : String) : Bool :=
  255 < (Utf8.ofString name).length

def namesOf (path : String) : Except IoError (List String) :=
  if path.toList.contains (Char.ofNat 0) then .error unusablePath
  else if path.isEmpty then .error notFound
  else if 4096 ≤ (Utf8.ofString path).length then .error nameTooLong
  else .ok ((Text.cutAt '/' path.toList).map String.ofList)

/-- Where the names of a path start: at the root, if a slash comes first. -/
def startOf (names : List String) : Place :=
  if names.head? = some "" then ⟨.root, []⟩ else {}

/-- Walks along names from a directory; a file can only be the end. -/
def walk (files : Files) : Place → List String → Except IoError Place
  | place, [] => .ok place
  | place, name :: rest =>
    if name = "" ∨ name = "." then files.walk place rest
    else if name = ".." then files.walk place.up rest
    else if isLong name then .error nameTooLong
    else
      match files.find? (place.down name) with
      | none => .error notFound
      | some .directory => files.walk (place.down name) rest
      | some (.file _) => if rest.isEmpty then .ok (place.down name) else .error notDirectory

def open? (files : Files) (path : String) : Except IoError Entry := do
  let names ← namesOf path
  let place ← files.walk (startOf names) names
  match files.find? place with
  | some entry => .ok entry
  | none => .error notFound

/-- The same files with an entry that names lead to from a directory;
everything on the way is a directory. -/
def lay (files : Files) (place : Place) : List String → Entry → Files
  | [], _ => files
  | name :: rest, entry =>
    if name = "" ∨ name = "." then files.lay place rest entry
    else if name = ".." then files.lay place.up rest entry
    else if rest.all fun name => name == "" || name == "." then files.put (place.down name) entry
    else (files.put (place.down name) .directory).lay (place.down name) rest entry

/-- The most that is read at once. -/
def readSize : Nat := 65536

/-- Cuts content into reads; nothing of them is empty. -/
def readsOf (content : Bytes) : List Bytes :=
  if content.length ≤ readSize then if content.isEmpty then [] else [content]
  else content.take readSize :: readsOf (content.drop readSize)
termination_by content.length
decreasing_by
  simp only [readSize, List.length_drop] at *
  omega

/-- Makes an empty file at a path, or empties the file that is there, and
tells its place.  A path with a slash at its end can only be a directory. -/
def create (files : Files) (path : String) : Except IoError (Files × Place) := do
  let names ← namesOf path
  let steps := (names.reverse.dropWhile (· == "")).reverse
  let parent ← files.walk (startOf names) steps.dropLast
  if files.find? parent ≠ some .directory then .error notDirectory
  else
    let name := steps.getLast?.getD ""
    let place := parent.down name
    if names.getLast? = some "" ∨ name = "." ∨ name = ".." then .error isDirectory
    else if isLong name then .error nameTooLong
    else if files.find? place = some .directory then .error isDirectory
    else .ok (files.put place (.file []), place)

end Files

namespace Entry

def reads : Entry → List (Except IoError Bytes)
  | .file content => (Files.readsOf content).map .ok
  | .directory => [.error Files.isDirectory]

def size : Entry → Nat
  | .file content => content.length
  | .directory => 0

end Entry

end OciBlobs
