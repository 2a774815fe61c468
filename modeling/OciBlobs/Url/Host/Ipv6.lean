/-
# `Url.Host.Ipv6` — addresses of eight pieces

An address is written as groups of hexadecimal digits between colons; one
`::` stands for a stretch of zero pieces, and the last two pieces may be
written as an IPv4 address.  The canonical text replaces the first of the
longest stretches of at least two zero pieces.
-/
import OciBlobs.Url.Host.Ipv4

namespace OciBlobs.Url.Ipv6

/-- One piece: one to four hexadecimal digits. -/
def piece? (group : List Char) : Option Nat :=
  if group.isEmpty || 4 < group.length then none else Ipv4.ofDigits? 16 group

/-- Groups without `::`; only the last may be an IPv4 address. -/
def groups? : List (List Char) → Option (List Nat)
  | [] => some []
  | [group] =>
    if group.contains '.' then
      (Ipv4.plain? group).map fun address => [address / 0x10000, address % 0x10000]
    else (piece? group).map ([·])
  | group :: rest => do
    let piece ← piece? group
    let pieces ← groups? rest
    some (piece :: pieces)

/-- The pieces of a text without `::`; none at all if it is empty. -/
def pieces? (text : List Char) : Option (List Nat) :=
  if text.isEmpty then some [] else groups? (Text.cutAt ':' text)

/-- Cuts a text at its first `::`. -/
def cutDouble : List Char → Option (List Char × List Char)
  | [] => none
  | ':' :: ':' :: rest => some ([], rest)
  | c :: rest => (cutDouble rest).map fun (before, after) => (c :: before, after)

def parse? (text : List Char) : Option (List Nat) :=
  match cutDouble text with
  | none => do
    let pieces ← pieces? text
    if pieces.length = 8 then some pieces else none
  | some (before, after) => do
    if before.contains '.' then none
    else
      let left ← pieces? before
      let right ← pieces? after
      if left.length + right.length < 8 then
        some (left ++ List.replicate (8 - left.length - right.length) 0 ++ right)
      else none

def leadingZeros : List Nat → Nat
  | 0 :: rest => leadingZeros rest + 1
  | _ => 0

/-- Start and length of the first of the longest stretches of zeros. -/
def longestZeros : Nat → List Nat → Nat × Nat
  | _, [] => (0, 0)
  | index, piece :: rest =>
    let run := leadingZeros (piece :: rest)
    let later := longestZeros (index + 1) rest
    if later.2 ≤ run then (index, run) else later

def renderPiece (piece : Nat) : List Char :=
  Nat.toDigits 16 piece

def renderPieces : List Nat → List Char
  | [] => []
  | [piece] => renderPiece piece
  | piece :: rest => renderPiece piece ++ ':' :: renderPieces rest

/-- The canonical text of an address. -/
def render (pieces : List Nat) : List Char :=
  let zeros := longestZeros 0 pieces
  if zeros.2 < 2 then renderPieces pieces
  else
    renderPieces (pieces.take zeros.1) ++ ':' :: ':' ::
      renderPieces (pieces.drop (zeros.1 + zeros.2))

end OciBlobs.Url.Ipv6
