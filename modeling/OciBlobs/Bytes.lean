/-
# `Bytes` — octet sequences and their hexadecimal text

Bodies, header values and hash inputs are plain lists of octets, so that
every statement about content is a statement about lists: a body cut into
pieces is the concatenation of its pieces, and nothing is hidden in a
buffer.
-/

namespace OciBlobs

/-- A sequence of octets, first to last. -/
abbrev Bytes := List UInt8

namespace Bytes

def hexDigit (n : Nat) : Char :=
  if n < 10 then Char.ofNat (48 + n) else Char.ofNat (87 + n)

def upperHexDigit (n : Nat) : Char :=
  if n < 10 then Char.ofNat (48 + n) else Char.ofNat (55 + n)

/-- Two lower-case hexadecimal digits per octet. -/
def toHex (bytes : Bytes) : List Char :=
  bytes.flatMap fun b => [hexDigit (b.toNat / 16), hexDigit (b.toNat % 16)]

def hexValue? (c : Char) : Option Nat :=
  if '0' ≤ c ∧ c ≤ '9' then some (c.toNat - 48)
  else if 'a' ≤ c ∧ c ≤ 'f' then some (c.toNat - 87)
  else if 'A' ≤ c ∧ c ≤ 'F' then some (c.toNat - 55)
  else none

/-- Reads hexadecimal text back, two digits of either case per octet. -/
def ofHex? : List Char → Option Bytes
  | [] => some []
  | [_] => none
  | a :: b :: rest => do
    let high ← hexValue? a
    let low ← hexValue? b
    let tail ← ofHex? rest
    some (UInt8.ofNat (16 * high + low) :: tail)

/-- The octets of ASCII text; a character beyond U+00FF keeps its low octet. -/
def ofAscii (text : String) : Bytes :=
  text.toList.map fun c => UInt8.ofNat c.toNat

end Bytes

end OciBlobs
