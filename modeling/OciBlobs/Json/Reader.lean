/-
# `Json.Reader` — reading octets with a place

A reader runs over a cursor: what is left of the octets, where they stand,
and what is known of the end.  Two things about the source show in answers.

A *text* is in hand as a whole; a *stream* is drawn octet by octet, and an
octet that was only looked at has been drawn, so the place of a fault found
there counts it (`Cursor.here`).

The octets may be all there are, or those that have arrived so far.  In the
second case a reader that looks beyond them stops, and the cursor remembers
that it ran dry.  A reader that did not run dry has not seen where its input
ends, so that more octets would change nothing.
-/
import OciBlobs.Bytes
import OciBlobs.Json.Fault

namespace OciBlobs.Json

/-- How octets come to the reader. -/
inductive Feed
  | text
  | stream
deriving DecidableEq, Repr

/-- What stands behind the last octet in hand. -/
inductive Ending
  /-- The end of the document. -/
  | closed
  /-- Octets that have not arrived. -/
  | unknown
deriving DecidableEq, Repr

structure Cursor where
  rest : Bytes
  place : Place := {}
  /-- The next octet has been looked at. -/
  held : Bool := false
  /-- The reader looked beyond the octets in hand. -/
  dry : Bool := false
  feed : Feed
  ending : Ending
deriving DecidableEq, Repr

namespace Cursor

/-- The place that a fault found now is given. -/
def here (cursor : Cursor) : Place :=
  match cursor.feed, cursor.held, cursor.rest with
  | .stream, true, b :: _ => cursor.place.step b
  | _, _, _ => cursor.place

/-- The place of the octet that is looked at. -/
def ahead (cursor : Cursor) : Place :=
  match cursor.rest with
  | b :: _ => cursor.place.step b
  | [] => cursor.place

/-- Leaves `run`, the first octets of the rest, behind. -/
def pass (cursor : Cursor) (run : Bytes) : Cursor :=
  match run with
  | [] => cursor
  | _ :: _ =>
    { cursor with
      rest := cursor.rest.drop run.length
      place := cursor.place.after run
      held := false }

end Cursor

/-- A computation that reads from a cursor. -/
def Reader (α : Type) : Type :=
  Cursor → Except Fault α × Cursor

namespace Reader

variable {α β σ : Type}

/-- Reads nothing. -/
def result (a : α) : Reader α :=
  fun cursor => (.ok a, cursor)

/-- One reader after the other; a fault of the first is the fault of both. -/
def andThen (first : Reader α) (second : α → Reader β) : Reader β :=
  fun cursor =>
    match first cursor with
    | (.ok a, cursor) => second a cursor
    | (.error fault, cursor) => (.error fault, cursor)

instance : Monad Reader where
  pure := result
  bind := andThen

def fail (fault : Fault) : Reader α :=
  fun cursor => (.error fault, cursor)

/-- Fails at the current place. -/
def failHere (cause : Cause) : Reader α :=
  fun cursor => (.error ⟨cause, some cursor.here⟩, cursor)

/-- Fails at the octet that is looked at. -/
def failAhead (cause : Cause) : Reader α :=
  fun cursor => (.error ⟨cause, some cursor.ahead⟩, cursor)

/-- Passes octets while they satisfy `p`, and looks at the one behind them. -/
def span (p : UInt8 → Bool) : Reader (Bytes × Option UInt8) :=
  fun cursor =>
    let run := cursor.rest.takeWhile p
    let cursor := cursor.pass run
    match cursor.rest, cursor.ending with
    | b :: _, _ => (.ok (run, some b), { cursor with held := true })
    | [], .closed => (.ok (run, none), cursor)
    | [], .unknown => (.error ⟨.unread, none⟩, { cursor with dry := true })

def peek : Reader (Option UInt8) := do
  let seen ← span fun _ => false
  pure seen.2

def drop : Reader Unit :=
  fun cursor => (.ok (), cursor.pass (cursor.rest.take 1))

def next : Reader (Option UInt8) := do
  let seen ← peek
  drop
  pure seen

def feed : Reader Feed :=
  fun cursor => (.ok cursor.feed, cursor)

/-- Runs a reader and hands its fault over as a value. -/
def attempt (reader : Reader α) : Reader (Except Fault α) :=
  fun cursor =>
    match reader cursor with
    | (outcome, cursor) => (.ok outcome, cursor)

/-- Gives a fault without a place the place where the reader stopped. -/
def located (reader : Reader α) : Reader α :=
  fun cursor =>
    match reader cursor with
    | (.ok a, cursor) => (.ok a, cursor)
    | (.error fault, cursor) => (.error (fault.locate cursor.here), cursor)

/-- What one turn of a loop comes to. -/
inductive Turn (σ β : Type)
  | again (state : σ)
  | done (result : β)

def Turn.result (turn : Turn σ β) (next : σ → Reader β) : Reader β :=
  match turn with
  | .again state => next state
  | .done result => pure result

/-- At most `fuel` turns. -/
def turns (step : σ → Reader (Turn σ β)) : Nat → σ → Reader β
  | 0, _ => failHere .endInValue
  | fuel + 1, state => do
    let turn ← step state
    turn.result (turns step fuel)

/-- A loop in which every turn that is not the last passes an octet, so that
there are no more turns than octets and one. -/
def loop (step : σ → Reader (Turn σ β)) (state : σ) : Reader β :=
  fun cursor => turns step (cursor.rest.length + 1) state cursor

end Reader

/-- Blanks between tokens. -/
def isBlank (b : UInt8) : Bool :=
  b == 0x20 || b == 0x0A || b == 0x09 || b == 0x0D

def isDigit (b : UInt8) : Bool :=
  0x30 ≤ b && b ≤ 0x39

def octet (c : Char) : UInt8 :=
  UInt8.ofNat c.toNat

namespace Reader

/-- Passes blanks and looks at what follows. -/
def peekPastBlanks : Reader (Option UInt8) := do
  let seen ← span isBlank
  pure seen.2

/-- Takes the letters of a word after its first. -/
def word : List Char → Reader Unit
  | [] => pure ()
  | c :: rest => do
    match ← next with
    | none => failHere .endInValue
    | some b => if b = octet c then word rest else failHere .expectedIdent

end Reader

end OciBlobs.Json
