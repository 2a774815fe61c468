/-
# `Url.Form` — queries as lists of pairs

A query of the form `k=v&k=v` stands for a list of pairs of octet
sequences: it is cut at `&` and at the first `=`, `+` is a blank, and escapes
are replaced (`Form.rawPairs`).  `Form.pairs` reads the octets as text, with
replacements where they are not UTF-8.  `Form.render` writes pairs of texts
in the one canonical spelling.
-/
import OciBlobs.Text.Split
import OciBlobs.Url.Percent

namespace OciBlobs.Url

namespace Form

/-- Octets with their plus signs read as blanks and escapes replaced. -/
def decodePart (part : Bytes) : Bytes :=
  decodeBytes (part.map fun b => if b = 0x2B then 0x20 else b)

/-- One pair, cut at its first equals sign. -/
def rawPair (piece : Bytes) : Bytes × Bytes :=
  (decodePart (piece.takeWhile (· != 0x3D)), decodePart ((piece.dropWhile (· != 0x3D)).drop 1))

/-- The pairs of a query as octets; empty pieces are no pairs. -/
def rawPairs (query : List Char) : List (Bytes × Bytes) :=
  ((Text.cutAt 0x26 (Utf8.encode query)).filter (!·.isEmpty)).map rawPair

/-- The pairs of a query as texts. -/
def pairs (query : List Char) : List (List Char × List Char) :=
  (rawPairs query).map fun pair => (Utf8.decodeLossy pair.1, Utf8.decodeLossy pair.2)

def isLiteral (b : UInt8) : Bool :=
  (0x30 ≤ b && b ≤ 0x39) || (0x41 ≤ b && b ≤ 0x5A) || (0x61 ≤ b && b ≤ 0x7A)
    || b == 0x2A || b == 0x2D || b == 0x2E || b == 0x5F

def renderByte (b : UInt8) : List Char :=
  if isLiteral b then [Char.ofNat b.toNat] else if b = 0x20 then ['+'] else escape b

def renderPart (text : List Char) : List Char :=
  (Utf8.encode text).flatMap renderByte

def renderPair (pair : List Char × List Char) : List Char :=
  renderPart pair.1 ++ '=' :: renderPart pair.2

def render : List (List Char × List Char) → List Char
  | [] => []
  | [pair] => renderPair pair
  | pair :: rest => renderPair pair ++ '&' :: render rest

end Form

end OciBlobs.Url
