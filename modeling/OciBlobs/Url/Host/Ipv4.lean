/-
# `Url.Host.Ipv4` — addresses of four octets

A host whose last label is a number is an IPv4 address or a fault.  Labels
may be decimal, octal after a zero, or hexadecimal after `0x`; the last one
fills all octets that the others leave.
-/
import OciBlobs.Url.Fault
import OciBlobs.Url.Form

namespace OciBlobs.Url.Ipv4

def digit? (radix : Nat) (c : Char) : Option Nat :=
  match Bytes.hexValue? c with
  | some n => if n < radix then some n else none
  | none => none

/-- The number that digits write in a radix; no digits write zero. -/
def ofDigits? (radix : Nat) (digits : List Char) : Option Nat :=
  digits.foldlM (fun n c => (digit? radix c).map fun d => n * radix + d) 0

/-- The number that a label writes. -/
def number? : List Char → Option Nat
  | [] => none
  | '0' :: 'x' :: rest => ofDigits? 16 rest
  | '0' :: 'X' :: rest => ofDigits? 16 rest
  | '0' :: c :: rest => ofDigits? 8 (c :: rest)
  | label => ofDigits? 10 label

/-- The labels of a host, without an empty one at the end. -/
def labels (host : List Char) : List (List Char) :=
  let all := Text.cutAt '.' host
  if all.getLast? = some [] then all.dropLast else all

/-- Whether the last label of a host is a number. -/
def endsInNumber (host : List Char) : Bool :=
  match (labels host).getLast? with
  | none => false
  | some label => (!label.isEmpty && label.all Char.isDigit) || (number? label).isSome

/-- The address of octets and a last number that fills what they leave. -/
def assemble : List Nat → Nat → Nat → Option Nat
  | [], room, last => if last < room then some last else none
  | n :: rest, room, last =>
    if 255 < n then none
    else (assemble rest (room / 256) last).map fun tail => n * (room / 256) + tail

def parse? (host : List Char) : Option Nat := do
  let parts := labels host
  if 4 < parts.length then none
  else
    let numbers ← parts.mapM number?
    let last ← numbers.getLast?
    assemble numbers.dropLast 0x100000000 last

def decimal (n : Nat) : List Char :=
  (toString n).toList

/-- An address as four octets with points between them. -/
def render (address : Nat) : List Char :=
  decimal (address / 0x1000000 % 256) ++ '.' :: (decimal (address / 0x10000 % 256)
    ++ '.' :: (decimal (address / 0x100 % 256) ++ '.' :: decimal (address % 256)))

/-- One octet in plain decimal, as it stands at the end of an IPv6 address. -/
def plainOctet? (label : List Char) : Option Nat :=
  if label.isEmpty || !label.all Char.isDigit || (label.length ≠ 1 && label.head? = some '0') then
    none
  else
    (ofDigits? 10 label).bind fun n => if n ≤ 255 then some n else none

def plain? (text : List Char) : Option Nat :=
  match Text.cutAt '.' text with
  | [a, b, c, d] => do
    let a ← plainOctet? a
    let b ← plainOctet? b
    let c ← plainOctet? c
    let d ← plainOctet? d
    some (a * 0x1000000 + b * 0x10000 + c * 0x100 + d)
  | _ => none

end OciBlobs.Url.Ipv4
