/-
# `Json.Fault` — what is wrong with a document

A fault is a cause with the place where reading stopped.  Faults of grammar
name the byte that could not be accepted; faults of content (a value of the
wrong kind, a missing member) carry their own wording and may have no place
when they are found in a value that was never text.
-/

namespace OciBlobs.Json

/-- A line, counted from 1, and the number of octets of it that are read. -/
structure Place where
  line : Nat := 1
  column : Nat := 0
deriving DecidableEq, Repr

def Place.step (place : Place) (byte : UInt8) : Place :=
  if byte = 0x0A then ⟨place.line + 1, 0⟩ else ⟨place.line, place.column + 1⟩

def Place.after (place : Place) (bytes : List UInt8) : Place :=
  bytes.foldl Place.step place

/-- The place `count` octets before, on the same line. -/
def Place.back (place : Place) (count : Nat) : Place :=
  ⟨place.line, place.column - count⟩

inductive Cause
  | endInList
  | endInObject
  | endInString
  | endInValue
  | expectedColon
  | expectedListCommaOrEnd
  | expectedObjectCommaOrEnd
  | expectedIdent
  | expectedValue
  | invalidEscape
  | invalidNumber
  | numberOutOfRange
  | invalidUnicode
  | controlCharacter
  | keyMustBeString
  | loneSurrogate
  | trailingComma
  | trailingCharacters
  | unfinishedSurrogate
  | recursionLimit
  /-- The content is not what was asked for. -/
  | content (message : String)
  /-- The source of the octets ran dry before its end was known. -/
  | unread
deriving DecidableEq, Repr

def Cause.message : Cause → String
  | .endInList => "EOF while parsing a list"
  | .endInObject => "EOF while parsing an object"
  | .endInString => "EOF while parsing a string"
  | .endInValue => "EOF while parsing a value"
  | .expectedColon => "expected `:`"
  | .expectedListCommaOrEnd => "expected `,` or `]`"
  | .expectedObjectCommaOrEnd => "expected `,` or `\x7d`"
  | .expectedIdent => "expected ident"
  | .expectedValue => "expected value"
  | .invalidEscape => "invalid escape"
  | .invalidNumber => "invalid number"
  | .numberOutOfRange => "number out of range"
  | .invalidUnicode => "invalid unicode code point"
  | .controlCharacter => "control character (\\u0000-\\u001F) found while parsing a string"
  | .keyMustBeString => "key must be a string"
  | .loneSurrogate => "lone leading surrogate in hex escape"
  | .trailingComma => "trailing comma"
  | .trailingCharacters => "trailing characters"
  | .unfinishedSurrogate => "unexpected end of hex escape"
  | .recursionLimit => "recursion limit exceeded"
  | .content message => message
  | .unread => "unread"

/-- The classes of faults that callers tell apart. -/
inductive Category
  /-- The document ended too soon. -/
  | eof
  /-- The document breaks the grammar. -/
  | grammar
  /-- The document is well formed but not what was asked for. -/
  | data
  /-- The document could not be read to its end. -/
  | source
deriving DecidableEq, Repr

def Cause.category : Cause → Category
  | .endInList | .endInObject | .endInString | .endInValue => .eof
  | .content _ => .data
  | .unread => .source
  | _ => .grammar

/-- A cause and, where it is known, its place. -/
structure Fault where
  cause : Cause
  place : Option Place := none
deriving DecidableEq, Repr

namespace Fault

/-- A fault of content without a place. -/
def content (message : String) : Fault :=
  ⟨.content message, none⟩

/-- Fills in the place of a fault that has none. -/
def locate (fault : Fault) (place : Place) : Fault :=
  match fault.place with
  | some _ => fault
  | none => ⟨fault.cause, some place⟩

def message (fault : Fault) : String :=
  match fault.place with
  | some place =>
    fault.cause.message ++ " at line " ++ toString place.line ++ " column " ++ toString place.column
  | none => fault.cause.message

end Fault

end OciBlobs.Json
