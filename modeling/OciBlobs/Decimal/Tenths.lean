/-
# `Decimal.Tenths` — one decimal place, ties to even

The nearest multiple of a tenth of a unit, with a tie going to the even
tenth, and the nearest double of a natural number by the same rule.
-/

namespace OciBlobs.Decimal

/-- The nearest whole number to `num / den`; a tie goes to the even one. -/
def roundHalfEven (num den : Nat) : Nat :=
  let whole := num / den
  let twice := 2 * (num % den)
  if den < twice || (twice = den && whole % 2 = 1) then whole + 1 else whole

/-- The nearest double of `n`, as a whole number. -/
def nearestDouble (n : Nat) : Nat :=
  if n < 0x20000000000000 then n
  else
    let unit := Nat.pow 2 (n.log2 - 52)
    roundHalfEven n unit * unit

/-- The number of tenths of `unit` nearest to `n`. -/
def tenthsOf (n unit : Nat) : Nat :=
  roundHalfEven (nearestDouble n * 10) unit

/-- A number of tenths in positional notation. -/
def showTenths (tenths : Nat) : String :=
  toString (tenths / 10) ++ "." ++ toString (tenths % 10)

end OciBlobs.Decimal
