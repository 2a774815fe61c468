/-
# `Json.Reader.Literal` — string literals

A literal is read into octets and then into characters: escapes are
replaced, an escaped surrogate needs its partner, and the octets have to be
UTF-8, which a text always is and a stream may not be.  Literals that nobody
asked for are passed over with fewer checks.
-/
import OciBlobs.Bytes.Utf8
import OciBlobs.Json.Reader

namespace OciBlobs.Json.Reader

/-- Octets that stand for themselves in a literal. -/
def isPlain (b : UInt8) : Bool :=
  b != octet '"' && b != octet '\\' && 0x20 ≤ b

/-- Looks at the next octet of a literal, which has to be there. -/
def peekInside : Reader UInt8 := do
  match ← peek with
  | some b => pure b
  | none => failHere .endInString

/-- Takes the next octet of a literal, which has to be there. -/
def nextInside : Reader UInt8 := do
  let b ← peekInside
  drop
  pure b

def hexDigit? (b : UInt8) : Option Nat :=
  Bytes.hexValue? (Char.ofNat b.toNat)

def hexQuad? (a b c d : UInt8) : Option Nat := do
  let a ← hexDigit? a
  let b ← hexDigit? b
  let c ← hexDigit? c
  let d ← hexDigit? d
  pure (a * 4096 + b * 256 + c * 16 + d)

def hexQuad : Reader Nat := do
  let a ← nextInside
  let b ← nextInside
  let c ← nextInside
  let d ← nextInside
  match hexQuad? a b c d with
  | some n => pure n
  | none => failHere .invalidEscape

/-- The partner of a leading surrogate. -/
def trailingSurrogate : Reader Nat := do
  let b ← peekInside
  drop
  if b ≠ octet '\\' then failHere .unfinishedSurrogate
  else
    let b ← peekInside
    drop
    if b ≠ octet 'u' then failHere .unfinishedSurrogate
    else
      let n ← hexQuad
      if n < 0xDC00 || 0xDFFF < n then failHere .loneSurrogate else pure n

/-- The character of an escape by code point. -/
def escapedCodePoint : Reader Char := do
  let n ← hexQuad
  if 0xDC00 ≤ n && n ≤ 0xDFFF then failHere .loneSurrogate
  else if 0xD800 ≤ n && n ≤ 0xDBFF then
    let m ← trailingSurrogate
    pure (Char.ofNat (0x10000 + (n - 0xD800) * 0x400 + (m - 0xDC00)))
  else pure (Char.ofNat n)

/-- The character of an escape, after its backslash. -/
def escaped : Reader Char := do
  let b ← nextInside
  if b = octet '"' then pure '"'
  else if b = octet '\\' then pure '\\'
  else if b = octet '/' then pure '/'
  else if b = octet 'b' then pure (Char.ofNat 8)
  else if b = octet 'f' then pure (Char.ofNat 12)
  else if b = octet 'n' then pure (Char.ofNat 10)
  else if b = octet 'r' then pure (Char.ofNat 13)
  else if b = octet 't' then pure (Char.ofNat 9)
  else if b = octet 'u' then escapedCodePoint
  else failHere .invalidEscape

/-- What has been read of a literal: its octets, last first, with escapes
replaced. -/
structure Draft where
  before : Bytes := []
deriving DecidableEq, Repr

namespace Draft

/-- The draft with a stretch of plain octets. -/
def add (draft : Draft) (stretch : Bytes) : Draft :=
  ⟨stretch.reverse ++ draft.before⟩

def push (draft : Draft) (c : Char) : Draft :=
  ⟨(Utf8.encodeChar c).reverse ++ draft.before⟩

/-- The text of a draft whose literal ends at `place`.  A flaw is placed as
many octets before that end as the draft has from the flaw on, which leaves
escapes and the closing quote out of the count. -/
def finish (draft : Draft) (place : Place) : Except Fault String :=
  let octets := draft.before.reverse
  match Utf8.toString? octets with
  | some text => .ok text
  | none =>
    .error ⟨.invalidUnicode,
      (Utf8.flaw? octets).map fun count => place.back (octets.length - count)⟩

end Draft

/-- One stretch of plain octets and what ends it. -/
def literalTurn (draft : Draft) : Reader (Turn Draft Draft) := do
  let seen ← span isPlain
  let draft := draft.add seen.1
  match seen.2 with
  | none => failHere .endInString
  | some b =>
    drop
    if b = octet '"' then pure (.done draft)
    else if b = octet '\\' then
      let c ← escaped
      pure (.again (draft.push c))
    else failHere .controlCharacter

/-- The characters of a literal, after its opening quote. -/
def literal : Reader String := do
  let draft ← loop literalTurn {}
  fun cursor => (draft.finish cursor.place, cursor)

/-- Passes an escape, after its backslash. -/
def skipEscape : Reader Unit := do
  let b ← nextInside
  if b = octet 'u' then
    let _ ← hexQuad
    pure ()
  else if ['"', '\\', '/', 'b', 'f', 'n', 'r', 't'].any (b = octet ·) then pure ()
  else failHere .invalidEscape

/-- Passes one stretch of plain octets and what ends it. -/
def skipLiteralTurn (_ : Unit) : Reader (Turn Unit Unit) := do
  let seen ← span isPlain
  match seen.2 with
  | none => failHere .endInString
  | some b =>
    if b = octet '"' then
      drop
      pure (.done ())
    else if b = octet '\\' then
      drop
      skipEscape
      pure (.again ())
    else
      match ← feed with
      | .text => failHere .controlCharacter
      | .stream =>
        drop
        failHere .controlCharacter

/-- Passes a literal, after its opening quote. -/
def skipLiteral : Reader Unit :=
  loop skipLiteralTurn ()

end OciBlobs.Json.Reader
