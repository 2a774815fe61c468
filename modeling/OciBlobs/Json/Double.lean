/-
# `Json.Double` — doubles as JSON numbers

`Double.render` writes the fewest digits that read back: positionally, with
at least one place, while the point stands within sixteen digits to the
right or four zeros to the left, and with a signed exponent otherwise.

`Double.ofParts?` is how a reader turns digits and a power of ten into a
double: the significand is rounded once and then scaled by one correctly
rounded power of ten, so that up to two roundings happen; a power beyond
the table is taken in steps of `10 ^ 308`.
-/
import OciBlobs.Decimal.Shortest

namespace OciBlobs.Json.Double

open Decimal

/-- Digits with the power of ten of their last digit, in JSON's notation. -/
def layout (digits : List Char) (exponent : Int) : List Char :=
  let count : Int := digits.length
  let point := count + exponent
  if 0 ≤ exponent ∧ point ≤ 16 then
    digits ++ List.replicate exponent.toNat '0' ++ ['.', '0']
  else if 0 < point ∧ point ≤ 16 then
    digits.take point.toNat ++ '.' :: digits.drop point.toNat
  else if -5 < point ∧ point ≤ 0 then
    ['0', '.'] ++ List.replicate (-point).toNat '0' ++ digits
  else
    let power := point - 1
    let mantissa := match digits with
      | [] => []
      | [d] => [d]
      | d :: rest => d :: '.' :: rest
    mantissa ++ 'e' :: (if power < 0 then '-' else '+') :: (toString power.natAbs).toList

/-- Drops the zeros at the end of a positive number and counts them. -/
def stripZeros : Nat → Nat → Nat × Nat
  | 0, digits => (digits, 0)
  | fuel + 1, digits =>
    if digits % 10 = 0 ∧ digits ≠ 0 then
      let stripped := stripZeros fuel (digits / 10)
      (stripped.1, stripped.2 + 1)
    else (digits, 0)

def render (x : Float) : List Char :=
  let bits := x.toBits
  let sign := if bits >>> 63 = 1 then ['-'] else []
  let binary := Binary.ofBits bits
  if binary.significand = 0 then sign ++ ['0', '.', '0']
  else
    let decimal := binary.shortest
    let stripped := stripZeros 20 decimal.digits
    sign ++ layout (toString stripped.1).toList (decimal.exponent + stripped.2)

/-- The correctly rounded power of ten, for exponents up to 308. -/
def powerOfTen (exponent : Nat) : Float :=
  Float.ofScientific 1 false exponent

/-- Scales down in steps of `10 ^ 308` until the exponent is in the table. -/
def scaleDown : Nat → Float → Nat → Float
  | 0, x, _ => x
  | fuel + 1, x, exponent =>
    if exponent ≤ 308 then x / powerOfTen exponent
    else if x == 0 then x
    else scaleDown fuel (x / powerOfTen 308) (exponent - 308)

/-- `significand * 10 ^ exponent`, or `none` beyond the largest double. -/
def ofParts? (positive : Bool) (significand : Nat) (exponent : Int) : Option Float :=
  let x := (UInt64.ofNat significand).toFloat
  let magnitude :=
    if exponent < 0 then some (scaleDown 4 x exponent.natAbs)
    else if exponent ≤ 308 then
      let scaled := x * powerOfTen exponent.toNat
      if scaled.isInf then none else some scaled
    else if x == 0 then some x
    else none
  magnitude.map fun m => if positive then m else -m

end OciBlobs.Json.Double
