/-
# `Json.Reader.Structure` — lists, objects, and whole documents

The separators of a container are read by `beginsItem` and `beginsMember`,
its end by `closeList` and `closeObject`.  A container whose content failed
is closed all the same before its fault is reported: what closing passes
shows in the place of a fault that has none of its own.

Containers lie at most 127 deep.
-/
import OciBlobs.Json.Reader.Literal
import OciBlobs.Json.Reader.Numeral

namespace OciBlobs.Json.Reader

variable {α σ : Type}

/-- How deep a document may still go, at its outside. -/
def depthLimit : Nat := 128

/-- Looks at the first octet of a value, which has to be there. -/
def peekValue : Reader UInt8 := do
  match ← peekPastBlanks with
  | some b => pure b
  | none => failAhead .endInValue

/-- Whether a list goes on; `first` says that nothing of it has been read. -/
def beginsItem (first : Bool) : Reader Bool := do
  match ← peekPastBlanks with
  | none => failAhead .endInList
  | some b =>
    if b = octet ']' then pure false
    else if first then pure true
    else if b = octet ',' then
      drop
      match ← peekPastBlanks with
      | some b => if b = octet ']' then failAhead .trailingComma else pure true
      | none => failAhead .endInValue
    else failAhead .expectedListCommaOrEnd

/-- Whether an object goes on; `first` says that nothing of it has been read. -/
def beginsMember (first : Bool) : Reader Bool := do
  match ← peekPastBlanks with
  | none => failAhead .endInObject
  | some b =>
    if b = octet '\x7d' then pure false
    else if first then
      if b = octet '"' then pure true else failAhead .keyMustBeString
    else if b = octet ',' then
      drop
      match ← peekPastBlanks with
      | some b =>
        if b = octet '"' then pure true
        else if b = octet '\x7d' then failAhead .trailingComma
        else failAhead .keyMustBeString
      | none => failAhead .endInValue
    else failAhead .expectedObjectCommaOrEnd

def colon : Reader Unit := do
  match ← peekPastBlanks with
  | some b => if b = octet ':' then drop else failAhead .expectedColon
  | none => failAhead .endInObject

def key : Reader String := do
  drop
  literal

def closeList : Reader Unit := do
  match ← peekPastBlanks with
  | some b =>
    if b = octet ']' then drop
    else if b = octet ',' then
      drop
      match ← attempt peekPastBlanks with
      | .ok (some b) =>
        if b = octet ']' then failAhead .trailingComma else failAhead .trailingCharacters
      | _ => failAhead .trailingCharacters
    else failAhead .trailingCharacters
  | none => failAhead .endInList

def closeObject : Reader Unit := do
  match ← peekPastBlanks with
  | some b =>
    if b = octet '\x7d' then drop
    else if b = octet ',' then failAhead .trailingComma
    else failAhead .trailingCharacters
  | none => failAhead .endInObject

def enclosed (content : Reader α) (close : Reader Unit) : Reader α := do
  drop
  let outcome ← attempt content
  let closing ← attempt close
  match outcome, closing with
  | .error fault, _ => fail fault
  | .ok _, .error fault => fail fault
  | .ok a, .ok () => pure a

/-- The items of a list; those read before are passed along. -/
def itemTurn (item : Reader α) (before : Bool × List α) :
    Reader (Turn (Bool × List α) (List α)) := do
  if ← beginsItem before.1 then
    let a ← item
    pure (.again (false, a :: before.2))
  else pure (.done before.2.reverse)

/-- The members of an object, collected in a state. -/
def memberTurn (member : σ → Reader σ) (before : Bool × σ) : Reader (Turn (Bool × σ) σ) := do
  if ← beginsMember before.1 then
    let state ← member before.2
    pure (.again (false, state))
  else pure (.done before.2)

def items (item : Reader α) : Reader (List α) :=
  loop (itemTurn item) (true, [])

def members (member : σ → Reader σ) (state : σ) : Reader σ :=
  loop (memberTurn member) (true, state)

def valueMember (value : Reader Value) (before : List (String × Value)) :
    Reader (List (String × Value)) := do
  let k ← key
  colon
  let v ← value
  pure (insertMember k v before)

/-- A value; `depth` is how deep containers may still go. -/
def value : Nat → Reader Value
  | 0 => failAhead .recursionLimit
  | depth + 1 => do
    let b ← peekValue
    if b = octet 'n' then drop *> word ['u', 'l', 'l'] *> pure .null
    else if b = octet 't' then drop *> word ['r', 'u', 'e'] *> pure (.boolean true)
    else if b = octet 'f' then drop *> word ['a', 'l', 's', 'e'] *> pure (.boolean false)
    else if b = octet '-' then drop *> (.number <$> numeral false)
    else if isDigit b then .number <$> numeral true
    else if b = octet '"' then drop *> (.text <$> literal)
    else if b = octet '[' then
      if depth = 0 then failAhead .recursionLimit
      else .list <$> enclosed (items (value depth)) closeList
    else if b = octet '\x7b' then
      if depth = 0 then failAhead .recursionLimit
      else .object <$> enclosed (members (valueMember (value depth)) []) closeObject
    else failAhead .expectedValue

/-- The kinds of container. -/
inductive Frame
  | list
  | object
deriving DecidableEq, Repr

/-- Whether a container ends here, rather than going on with an item or
member; `afterItem` says that one was just read. -/
def ends (afterItem : Bool) (frame : Frame) : Reader Bool := do
  match ← peekPastBlanks with
  | none => failAhead (match frame with | .list => .endInList | .object => .endInObject)
  | some b =>
    if afterItem && b = octet ',' then drop *> pure false
    else if b = (match frame with | .list => octet ']' | .object => octet '\x7d') then
      drop *> pure true
    else if afterItem then
      failAhead (match frame with
        | .list => .expectedListCommaOrEnd
        | .object => .expectedObjectCommaOrEnd)
    else pure false

/-- Leaves containers that end here, innermost first, up to the next item or
member.  The answer is the containers that are still open, or `none` when
all are closed. -/
def leave (afterItem : Bool) (frame : Frame) :
    List Frame → Reader (Option (Frame × List Frame))
  | [] => do
    if ← ends afterItem frame then pure none else pure (some (frame, []))
  | next :: outer => do
    if ← ends afterItem frame then leave true next outer
    else pure (some (frame, next :: outer))

def skipKey : Reader Unit := do
  match ← peekPastBlanks with
  | some b =>
    if b = octet '"' then
      drop
      skipLiteral
      colon
    else failAhead .keyMustBeString
  | none => failAhead .endInObject

def resume : Option (Frame × List Frame) → Reader (Turn (List Frame) Unit)
  | none => pure (.done ())
  | some (.list, outer) => pure (.again (.list :: outer))
  | some (.object, outer) => skipKey *> pure (.again (.object :: outer))

/-- What follows a value in the containers around it. -/
def skipOn : List Frame → Reader (Turn (List Frame) Unit)
  | [] => pure (.done ())
  | frame :: outer => do resume (← leave true frame outer)

/-- Passes a scalar or enters a container. -/
def skipTurn (open_ : List Frame) : Reader (Turn (List Frame) Unit) := do
  let b ← peekValue
  if b = octet 'n' then drop *> word ['u', 'l', 'l'] *> skipOn open_
  else if b = octet 't' then drop *> word ['r', 'u', 'e'] *> skipOn open_
  else if b = octet 'f' then drop *> word ['a', 'l', 's', 'e'] *> skipOn open_
  else if b = octet '-' then drop *> skipNumeral *> skipOn open_
  else if isDigit b then skipNumeral *> skipOn open_
  else if b = octet '"' then drop *> skipLiteral *> skipOn open_
  else if b = octet '[' then do
    drop
    resume (← leave false .list open_)
  else if b = octet '\x7b' then do
    drop
    resume (← leave false .object open_)
  else failAhead .expectedValue

/-- Passes a value that nobody asked for, however deep. -/
def skipValue : Reader Unit :=
  loop skipTurn []

def finish : Reader Unit := do
  match ← peekPastBlanks with
  | some _ => failAhead .trailingCharacters
  | none => pure ()

def document (content : Reader α) : Reader α := do
  let a ← content
  finish
  pure a

end OciBlobs.Json.Reader

namespace OciBlobs.Json

def readText {α : Type} (content : Reader α) (text : String) : Except Fault α :=
  (Reader.document content ⟨Utf8.ofString text, {}, false, false, .text, .closed⟩).1

def parse (text : String) : Except Fault Value :=
  readText (Reader.value Reader.depthLimit) text

end OciBlobs.Json
