/-
# `Log.Size` — byte counts for people

Below 1024 a count is printed as it is; above, it is printed with one
decimal in the largest unit of 1024, 1024² or 1024³ octets that it reaches.
-/
import OciBlobs.Decimal.Tenths

namespace OciBlobs.Size

open Decimal

inductive Unit
  | kilo
  | mega
  | giga
deriving DecidableEq, Repr

def Unit.octets : Unit → Nat
  | .kilo => 1024
  | .mega => 1048576
  | .giga => 1073741824

def Unit.symbol : Unit → String
  | .kilo => "KB"
  | .mega => "MB"
  | .giga => "GB"

/-- The unit for a count of at least 1024. -/
def Unit.for (count : Nat) : Unit :=
  if count < 1048576 then .kilo else if count < 1073741824 then .mega else .giga

def render (count : Nat) : String :=
  if count < 1024 then toString count ++ " B"
  else
    let unit := Unit.for count
    showTenths (tenthsOf count unit.octets) ++ " " ++ unit.symbol

end OciBlobs.Size
