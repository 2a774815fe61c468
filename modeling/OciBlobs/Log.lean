/-
# `Log` — what a run says about itself

A logger decides for each note whether it is shown and where: on standard
output, on standard error, or kept for the caller.  Notes are lines of one
level each; traces of operations (`registry.blob.check url=…`) are notes of
the level `trace`.
-/
import OciBlobs.Bytes.Utf8

namespace OciBlobs

/-- What a run puts out, piece by piece. -/
inductive Output
  | stdout (bytes : Bytes)
  | stderr (bytes : Bytes)
  /-- A line kept for the caller. -/
  | kept (line : String)
deriving DecidableEq, Repr

namespace Output

def stdoutOf (outputs : List Output) : Bytes :=
  outputs.flatMap fun
    | .stdout bytes => bytes
    | _ => []

def stderrOf (outputs : List Output) : Bytes :=
  outputs.flatMap fun
    | .stderr bytes => bytes
    | _ => []

def keptOf (outputs : List Output) : List String :=
  outputs.filterMap fun
    | .kept line => some line
    | _ => none

end Output

namespace Log

inductive Level
  | trace
  | info
  | success
  | warning
  | error
  | detail
deriving DecidableEq, Repr

def Level.lead : Level → String
  | .trace => ""
  | .info => "ℹ️  "
  | .success => "✅ "
  | .warning => "⚠️  WARNING: "
  | .error => "❌ ERROR: "
  | .detail => "   "

/-- Whether notes of a level are answers to the user and not remarks. -/
def Level.isAnswer : Level → Bool
  | .info | .success => true
  | _ => false

/-- One line of a log. -/
structure Note where
  level : Level
  text : String
deriving DecidableEq, Repr

def Note.line (note : Note) : String :=
  note.level.lead ++ note.text

def trace (name : String) (fields : List (String × String)) : Note :=
  ⟨.trace, fields.foldl (fun line field => line ++ " " ++ field.1 ++ "=" ++ field.2) name⟩

/-- What is shown, and where. -/
structure Logger where
  verbose : Bool := false
  quiet : Bool := false
  stderrOnly : Bool := false
  /-- Lines are kept for the caller instead of printed. -/
  keeps : Bool := false
deriving DecidableEq, Repr

namespace Logger

def new (verbose : Bool) : Logger :=
  { verbose := verbose }

def newQuiet : Logger :=
  { quiet := true }

def keeping : Logger :=
  { verbose := true, keeps := true }

def shows (logger : Logger) : Level → Bool
  | .trace | .detail => logger.verbose && !logger.quiet
  | .info | .success | .warning => !logger.quiet
  | .error => true

/-- Where a line of a level goes. -/
def place (logger : Logger) (level : Level) (line : String) : Output :=
  if logger.keeps then .kept line
  else if level.isAnswer && !logger.stderrOnly then .stdout (Utf8.ofString (line ++ "\n"))
  else .stderr (Utf8.ofString (line ++ "\n"))

def render (logger : Logger) (note : Note) : List Output :=
  if logger.shows note.level then [logger.place note.level note.line] else []

end Logger

end Log

end OciBlobs
