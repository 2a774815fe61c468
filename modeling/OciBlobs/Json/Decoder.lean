/-
# `Json.Decoder` — documents as what a program expects

A decoder takes a value of one type, either off a reader or out of a
document that is already a value, and says in both cases what it expected
and what it found.  Records are written as an object in any order, or as a
list in the order of their fields; a field is given at most once, and
members that no field asks for are passed over.
-/
import OciBlobs.Json.Printer
import OciBlobs.Json.Reader.Structure
import OciBlobs.Text.Quoted

namespace OciBlobs.Json

/-- What a decoder found in the place of what it expected. -/
inductive Found
  | null
  | boolean (b : Bool)
  | number (n : Number)
  | text (s : String)
  | list
  | object

def Found.describe : Found → String
  | .null => "null"
  | .boolean true => "boolean `true`"
  | .boolean false => "boolean `false`"
  | .number (.double x) => "floating point `" ++ String.ofList (Double.render x) ++ "`"
  | .number n => "integer `" ++ String.ofList n.render ++ "`"
  | .text s => "string " ++ Text.quoted s
  | .list => "sequence"
  | .object => "map"

def Found.ofValue : Value → Found
  | .null => .null
  | .boolean b => .boolean b
  | .number n => .number n
  | .text s => .text s
  | .list _ => .list
  | .object _ => .object

namespace Fault

def wrongKind (found : Found) (expected : String) : Fault :=
  content ("invalid type: " ++ found.describe ++ ", expected " ++ expected)

def wrongValue (found : Found) (expected : String) : Fault :=
  content ("invalid value: " ++ found.describe ++ ", expected " ++ expected)

def wrongLength (length : Nat) (expected : String) : Fault :=
  content ("invalid length " ++ toString length ++ ", expected " ++ expected)

def duplicateField (name : String) : Fault :=
  content ("duplicate field `" ++ name ++ "`")

def missingField (name : String) : Fault :=
  content ("missing field `" ++ name ++ "`")

end Fault

namespace Reader

variable {α : Type}

/-- A result or fault as a reader. -/
def ofExcept : Except Fault α → Reader α
  | .ok a => pure a
  | .error fault => fail fault

/-- Fails on the value that is looked at, which is not what was expected. -/
def mismatch (expected : String) : Reader α := do
  match ← peek with
  | none => failAhead .expectedValue
  | some b =>
    if b = octet 'n' then drop *> word ['u', 'l', 'l'] *> fail (.wrongKind .null expected)
    else if b = octet 't' then
      drop *> word ['r', 'u', 'e'] *> fail (.wrongKind (.boolean true) expected)
    else if b = octet 'f' then
      drop *> word ['a', 'l', 's', 'e'] *> fail (.wrongKind (.boolean false) expected)
    else if b = octet '-' then do
      drop
      let n ← numeral false
      fail (.wrongKind (.number n) expected)
    else if isDigit b then do
      let n ← numeral true
      fail (.wrongKind (.number n) expected)
    else if b = octet '"' then do
      drop
      let s ← literal
      fail (.wrongKind (.text s) expected)
    else if b = octet '[' then fail (.wrongKind .list expected)
    else if b = octet '\x7b' then fail (.wrongKind .object expected)
    else failAhead .expectedValue

end Reader

/-- How to take a value of one type from a document. -/
structure Decoder (α : Type) where
  /-- Off a reader, with the depth that containers may still go. -/
  read : Nat → Reader α
  /-- Out of a document. -/
  ofValue : Value → Except Fault α

namespace Decoder

open Reader

variable {α β σ : Type}

def document : Decoder Value where
  read depth := Reader.value depth
  ofValue value := .ok value

def text : Decoder String where
  read _ := located do
    let b ← peekValue
    if b = octet '"' then drop *> literal else mismatch "a string"
  ofValue
    | .text s => .ok s
    | value => .error (.wrongKind (.ofValue value) "a string")

def boolean : Decoder Bool where
  read _ := located do
    let b ← peekValue
    if b = octet 't' then drop *> word ['r', 'u', 'e'] *> pure true
    else if b = octet 'f' then drop *> word ['a', 'l', 's', 'e'] *> pure false
    else mismatch "a boolean"
  ofValue
    | .boolean b => .ok b
    | value => .error (.wrongKind (.ofValue value) "a boolean")

/-- A number that `accept` takes; `expected` names its type. -/
def numberWith (expected : String) (accept : Number → Except Fault α) : Decoder α where
  read _ := located do
    let b ← peekValue
    if b = octet '-' then do
      drop
      let n ← numeral false
      ofExcept (accept n)
    else if isDigit b then do
      let n ← numeral true
      ofExcept (accept n)
    else mismatch expected
  ofValue
    | .number n => accept n
    | value => .error (.wrongKind (.ofValue value) expected)

/-- A whole number from zero to `limit`. -/
def unsigned (expected : String) (limit : Nat) : Decoder Nat :=
  numberWith expected fun
    | .natural n =>
      if n ≤ limit then .ok n else .error (.wrongValue (.number (.natural n)) expected)
    | .negative n => .error (.wrongValue (.number (.negative n)) expected)
    | .double x => .error (.wrongKind (.number (.double x)) expected)

/-- A whole number of 64 bits with a sign. -/
def signed64 : Decoder Int :=
  numberWith "i64" fun
    | .natural n =>
      if n < 0x8000000000000000 then .ok n else .error (.wrongValue (.number (.natural n)) "i64")
    | .negative n => .ok (-(n : Int))
    | .double x => .error (.wrongKind (.number (.double x)) "i64")

def optional (inner : Decoder α) : Decoder (Option α) where
  read depth := do
    let seen ← peekPastBlanks
    if seen = some (octet 'n') then drop *> word ['u', 'l', 'l'] *> pure none
    else some <$> inner.read depth
  ofValue
    | .null => .ok none
    | value => some <$> inner.ofValue value

/-- A value that a further check accepts. -/
def checked (inner : Decoder α) (accept : α → Except Fault β) : Decoder β where
  read depth := do
    let a ← inner.read depth
    ofExcept (accept a)
  ofValue value := do
    let a ← inner.ofValue value
    accept a

def list (item : Decoder α) : Decoder (List α) where
  read depth := located do
    let b ← peekValue
    if b = octet '[' then
      if depth ≤ 1 then failAhead .recursionLimit
      else enclosed (items (item.read (depth - 1))) closeList
    else mismatch "a sequence"
  ofValue
    | .list values => values.mapM item.ofValue
    | value => .error (.wrongKind (.ofValue value) "a sequence")

/-- One field of a record that is collected in a state. -/
structure Field (σ : Type) where
  name : String
  /-- Whether the field has been given. -/
  isGiven : σ → Bool
  read : Nat → σ → Reader σ
  ofValue : σ → Value → Except Fault σ
  /-- Whether a list may end before the field. -/
  mayLack : Bool

/-- A field with its own decoder and its place in the state. -/
def Field.of (name : String) (decoder : Decoder α) (get : σ → Option α) (set : σ → α → σ)
    (mayLack : Bool) : Field σ where
  name := name
  isGiven state := (get state).isSome
  read depth state := do
    let a ← decoder.read depth
    pure (set state a)
  ofValue state value := do
    let a ← decoder.ofValue value
    .ok (set state a)
  mayLack := mayLack

/-- The form of a record. -/
structure Record (σ α : Type) where
  /-- What a message calls the record. -/
  expected : String
  /-- What a message calls a list with all fields. -/
  fullLength : String
  fields : List (Field σ)
  /-- Nothing given yet. -/
  blank : σ
  /-- The record, if nothing that it needs is missing. -/
  complete : σ → Except Fault α
  /-- The fault of a member that is no field, if such members are refused. -/
  refuse : Option (String → Fault)

namespace Record

def field? (record : Record σ α) (name : String) : Option (Field σ) :=
  record.fields.find? fun field => field.name == name

def readMember (record : Record σ α) (depth : Nat) (state : σ) : Reader σ := do
  let name ← key
  match record.field? name with
  | some field =>
    if field.isGiven state then fail (.duplicateField name)
    else do
      colon
      field.read depth state
  | none =>
    match record.refuse with
    | some fault => fail (fault name)
    | none => do
      colon
      skipValue
      pure state

/-- The fields of a record written as a list, from the `index`-th on. -/
def readItems (record : Record σ α) (depth : Nat) (index : Nat) :
    List (Field σ) → σ → Reader σ
  | [], state => pure state
  | field :: rest, state => do
    if ← beginsItem (index == 0) then
      let state ← field.read depth state
      record.readItems depth (index + 1) rest state
    else if field.mayLack then record.readItems depth index rest state
    else fail (.wrongLength index record.fullLength)

/-- One member of a record that is an object. -/
def takeMember (record : Record σ α) (state : σ) (member : String × Value) : Except Fault σ :=
  match record.field? member.1 with
  | some field =>
    if field.isGiven state then .error (.duplicateField member.1)
    else field.ofValue state member.2
  | none =>
    match record.refuse with
    | some fault => .error (fault member.1)
    | none => .ok state

/-- The fields of a record that is a list, with the items left over. -/
def takeItems (record : Record σ α) (index : Nat) :
    List (Field σ) → σ → List Value → Except Fault (σ × List Value)
  | [], state, values => .ok (state, values)
  | field :: rest, state, [] =>
    if field.mayLack then record.takeItems index rest state []
    else .error (.wrongLength index record.fullLength)
  | field :: rest, state, value :: values => do
    let state ← field.ofValue state value
    record.takeItems (index + 1) rest state values

/-- A record, written as an object or as a list. -/
def decoder (record : Record σ α) : Decoder α where
  read depth := located do
    let b ← peekValue
    if b = octet '[' then
      if depth ≤ 1 then failAhead .recursionLimit
      else
        enclosed (do
          let state ← record.readItems (depth - 1) 0 record.fields record.blank
          ofExcept (record.complete state)) closeList
    else if b = octet '\x7b' then
      if depth ≤ 1 then failAhead .recursionLimit
      else
        enclosed (do
          let state ← members (record.readMember (depth - 1)) record.blank
          ofExcept (record.complete state)) closeObject
    else mismatch record.expected
  ofValue
    | .list values => do
      let taken ← record.takeItems 0 record.fields record.blank values
      let a ← record.complete taken.1
      if taken.2.isEmpty then .ok a
      else .error (.wrongLength values.length "fewer elements in array")
    | .object members => do
      let state ← members.foldlM record.takeMember record.blank
      record.complete state
    | value => .error (.wrongKind (.ofValue value) record.expected)

end Record

def ofText (decoder : Decoder α) (text : String) : Except Fault α :=
  readText (decoder.read depthLimit) text

/-- Decodes all octets of a stream. -/
def ofStream (decoder : Decoder α) (bytes : Bytes) : Except Fault α :=
  (Reader.document (decoder.read depthLimit) ⟨bytes, {}, false, false, .stream, .closed⟩).1

/-- Decodes the octets of a stream that have arrived, if they settle the
outcome whatever follows. -/
def settled? (decoder : Decoder α) (bytes : Bytes) : Option (Except Fault α) :=
  let outcome :=
    Reader.document (decoder.read depthLimit) ⟨bytes, {}, false, false, .stream, .unknown⟩
  if outcome.2.dry then none else some outcome.1

/-- The fault of a stream that broke off, unless its octets were at fault
before. -/
def brokenOff (decoder : Decoder α) (bytes : Bytes) : Except Fault α :=
  (Reader.document (decoder.read depthLimit) ⟨bytes, {}, false, false, .stream, .unknown⟩).1

end Decoder

end OciBlobs.Json
