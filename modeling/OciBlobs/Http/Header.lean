/-
# `Http.Header` — header fields

Names are kept in lower case, which makes equality of names the equality of
texts.  Values are octets; of them, a text is only what is printable ASCII.
-/
import OciBlobs.Bytes.Utf8

namespace OciBlobs.Http

structure Header where
  /-- In lower case. -/
  name : String
  value : Bytes
deriving DecidableEq, Repr

namespace Header

def isNameChar (c : Char) : Bool :=
  c.isAlphanum || ['!', '#', '$', '%', '&', '\'', '*', '+', '-', '.', '^', '_', Char.ofNat 0x60,
    '|', '~'].contains c

/-- The lower-case form of a name, if a text is one. -/
def name? (text : String) : Option String :=
  let chars := text.toList
  if chars.isEmpty || !chars.all isNameChar || 65535 < chars.length then none
  else some (String.ofList (chars.map Char.toLower))

/-- The field of a name in any case, if it is one. -/
def ofField? (name : String) (value : Bytes) : Option Header :=
  (name? name).map fun name => ⟨name, value⟩

def isValueByte (b : UInt8) : Bool :=
  (0x20 ≤ b && b != 0x7F) || b == 0x09

/-- The value that a text makes, if it can be one. -/
def value? (text : String) : Option Bytes :=
  let bytes := Utf8.ofString text
  if bytes.all isValueByte then some bytes else none

def isTextByte (b : UInt8) : Bool :=
  (0x20 ≤ b && b < 0x7F) || b == 0x09

/-- The text of a value, if all of it is printable. -/
def text? (value : Bytes) : Option String :=
  if value.all isTextByte then
    some (String.ofList (value.map fun b => Char.ofNat b.toNat))
  else none

def first? (headers : List Header) (name : String) : Option Bytes :=
  (headers.find? fun header => header.name == name).map (·.value)

def without (headers : List Header) (name : String) : List Header :=
  headers.filter fun header => header.name != name

end Header

end OciBlobs.Http
