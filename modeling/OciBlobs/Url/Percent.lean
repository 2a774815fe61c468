/-
# `Url.Percent` — percent-encoding and the sets that call for it

A component is encoded character by character: ASCII outside the set of its
component stays, everything else becomes `%XX` for each octet of its UTF-8
form.  Decoding works on octets and leaves a percent sign that no two
hexadecimal digits follow.
-/
import OciBlobs.Bytes.Utf8

namespace OciBlobs.Url

/-- Controls and everything beyond ASCII, which no component keeps. -/
def isControl (c : Char) : Bool :=
  c.toNat < 0x20 || 0x7F ≤ c.toNat

def inFragmentSet (c : Char) : Bool :=
  isControl c || c == ' ' || c == '"' || c == '<' || c == '>' || c == Char.ofNat 0x60

def inQuerySet (c : Char) : Bool :=
  isControl c || c == ' ' || c == '"' || c == '#' || c == '<' || c == '>'

/-- What the query of a URL with a special scheme encodes. -/
def inSpecialQuerySet (c : Char) : Bool :=
  inQuerySet c || c == '\''

def inPathSet (c : Char) : Bool :=
  inFragmentSet c || c == '#' || c == '?' || c == '\x7b' || c == '\x7d'

def inUserinfoSet (c : Char) : Bool :=
  inPathSet c || c == '/' || c == ':' || c == ';' || c == '=' || c == '@' || c == '['
    || c == '\\' || c == ']' || c == '^' || c == '|'

/-- The three characters that write an octet. -/
def escape (b : UInt8) : List Char :=
  ['%', Bytes.upperHexDigit (b.toNat / 16), Bytes.upperHexDigit (b.toNat % 16)]

def encodeChar (inSet : Char → Bool) (c : Char) : List Char :=
  if inSet c || 0x80 ≤ c.toNat then (Utf8.encodeChar c).flatMap escape else [c]

def encode (inSet : Char → Bool) (text : List Char) : List Char :=
  text.flatMap (encodeChar inSet)

def hexValue? (b : UInt8) : Option Nat :=
  Bytes.hexValue? (Char.ofNat b.toNat)

def decodeBytes : Bytes → Bytes
  | [] => []
  | [a] => [a]
  | [a, b] => [a, b]
  | a :: b :: c :: rest =>
    if a = 0x25 then
      match hexValue? b, hexValue? c with
      | some high, some low => UInt8.ofNat (16 * high + low) :: decodeBytes rest
      | _, _ => a :: decodeBytes (b :: c :: rest)
    else a :: decodeBytes (b :: c :: rest)

/-- The octets that a text stands for. -/
def decode (text : List Char) : Bytes :=
  decodeBytes (Utf8.encode text)

end OciBlobs.Url
