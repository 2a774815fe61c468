/-
# `CommandLine.Reader` — reading one side of a command line

Arguments are taken one by one.  The last value that was taken stays pending
until the next option or positional argument comes: only then is it looked
at, so that an argument that is not known at all is reported first.
-/
import OciBlobs.CommandLine.Grammar

namespace OciBlobs.CommandLine

/-- What a pending value is for. -/
inductive Place
  | option (opt : Opt)
  | positional (kind : Kind)
deriving DecidableEq, Repr

/-- A value that has not been looked at, or that has not come yet. -/
structure Pending where
  place : Place
  value : Option String
deriving DecidableEq, Repr

/-- What has been read of one side. -/
structure Side where
  /-- The options given, in order, with their values. -/
  given : List (Opt × String) := []
  positionals : List String := []
  pending : Option Pending := none
  /-- Everything from here on is a positional argument. -/
  trailing : Bool := false
deriving DecidableEq, Repr

namespace Side

def value? (side : Side) (opt : Opt) : Option String :=
  side.given.lookup opt

def has (side : Side) (opt : Opt) : Bool :=
  (side.value? opt).isSome

def isWaiting (side : Side) : Bool :=
  side.pending.any fun pending => pending.value.isNone

/-- Takes a complete value for an option: once, and of the right form. -/
def give (side : Side) (opt : Opt) (value : String) : Except Usage Side :=
  if side.has opt then .error .conflict
  else do
    opt.kind.check value
    .ok { side with given := side.given ++ [(opt, value)] }

def settle (side : Side) : Except Usage Side :=
  let clear := { side with pending := none }
  match side.pending with
  | none => .ok side
  | some ⟨_, none⟩ => .error .missingValue
  | some ⟨.option opt, some value⟩ => clear.give opt value
  | some ⟨.positional kind, some value⟩ => do
    kind.check value
    .ok { clear with positionals := clear.positionals ++ [value] }

def takeOption (side : Side) (opt : Opt) (attached : Option String) : Except Usage Side := do
  let side ← side.settle
  match opt, opt.kind, attached with
  | .help, _, _ => .error .help
  | .version, _, _ => .error .version
  | _, .flag, _ => side.give opt ""
  | _, _, some value => side.give opt value
  | _, _, none => .ok { side with pending := some ⟨.option opt, none⟩ }

def takeLong (side : Side) (level : Level) (text : List Char) : Except Usage Side :=
  let attached := match text.dropWhile (· != '=') with
    | [] => none
    | _ :: value => some (String.ofList value)
  match level.named? (String.ofList (text.takeWhile (· != '='))) with
  | none => .error .unknownArgument
  | some opt =>
    if opt.kind = .flag ∧ attached.isSome then .error .unneededValue
    else side.takeOption opt attached

/-- Options by their letters; what follows the letter of one that takes a
value is the value. -/
def takeLetters (level : Level) : Side → List Char → Except Usage Side
  | side, [] => .ok side
  | side, letter :: rest =>
    match level.lettered? letter with
    | none => .error .unknownArgument
    | some opt =>
      if opt.kind = .flag then do
        let side ← side.takeOption opt none
        takeLetters level side rest
      else
        match rest with
        | [] => side.takeOption opt none
        | '=' :: value => side.takeOption opt (some (String.ofList value))
        | value => side.takeOption opt (some (String.ofList value))

/-- A positional argument; `surplus` says what one too many is. -/
def takePositional (side : Side) (level : Level) (text : String) (surplus : Usage) :
    Except Usage Side :=
  let pendingOnes := match side.pending with
    | some ⟨.positional _, _⟩ => 1
    | _ => 0
  match level.positionals.drop (side.positionals.length + pendingOnes) with
  | [] => .error surplus
  | kind :: _ => do
    let side ← side.settle
    .ok { side with pending := some ⟨.positional kind, some text⟩ }

/-- A value for the option that waits for one, or else a positional argument. -/
def takePlain (side : Side) (level : Level) (text : String) (surplus : Usage) :
    Except Usage Side :=
  match side.pending with
  | some ⟨place, none⟩ => .ok { side with pending := some ⟨place, some text⟩ }
  | _ => side.takePositional level text surplus

def take (side : Side) (level : Level) (text : String) (surplus : Usage) : Except Usage Side :=
  if side.trailing then side.takePositional level text surplus
  else
    match text.toList with
    | ['-', '-'] => .ok { side with trailing := true }
    | '-' :: '-' :: long => side.takeLong level long
    | '-' :: letter :: letters => takeLetters level side (letter :: letters)
    | _ => side.takePlain level text surplus

/-- A side that nothing is added to: its options get along. -/
def finish (side : Side) : Except Usage Side := do
  let side ← side.settle
  if side.has .verbose && side.has .quiet then .error .conflict else .ok side

/-- All arguments behind a command. -/
def ofArguments (verb : Verb) (arguments : List String) : Except Usage Side := do
  let level := Level.behind verb
  let side ← arguments.foldlM (fun (side : Side) text => side.take level text .unknownArgument) {}
  let side ← side.finish
  if side.positionals.length < level.positionals.length then .error .missingArgument
  else .ok side

end Side

/-- What a call for help comes to: help on a command that there is. -/
def helpOn : List String → Usage
  | [] => .help
  | [name] => if name = helpName ∨ (Verb.ofName? name).isSome then .help else .unknownCommand
  | _ => .unknownCommand

/-- What an argument is that no level in front of the command takes. -/
def Side.surplusInFront (front : Side) (text : String) : Usage :=
  if front.trailing ∧ (text = helpName ∨ (Verb.ofName? text).isSome) then .unknownArgument
  else .unknownCommand

/-- A whole command line: both sides of the command.  A name is a command only
where no value is waited for and nothing but positional arguments follows. -/
def readFrom : Side → List String → Except Usage (Side × Verb × Side)
  | front, [] => do
    let front ← front.settle
    .error (if front.given.isEmpty then .nothingGiven else .missingCommand)
  | front, text :: rest =>
    let isOpen := !front.trailing && !front.isWaiting
    match isOpen, Verb.ofName? text with
    | true, some verb => do
      let behind ← Side.ofArguments verb rest
      let front ← front.finish
      .ok (front, verb, behind)
    | _, _ =>
      if isOpen && text == helpName then .error (helpOn rest)
      else do
        let front ← front.take Level.front text (front.surplusInFront text)
        readFrom front rest

end OciBlobs.CommandLine
