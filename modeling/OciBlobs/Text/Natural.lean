/-
# `Text.Natural` — whole numbers written in decimal
-/

namespace OciBlobs.Text

/-- The number that ASCII digits write; there is at least one of them. -/
def ofDigits? (digits : List Char) : Option Nat :=
  if digits.isEmpty || !digits.all Char.isDigit then none
  else some (digits.foldl (fun n c => n * 10 + (c.toNat - 48)) 0)

/-- A whole number of 64 bits, with or without a plus sign. -/
def natural64? (text : String) : Option Nat := do
  let digits := match text.toList with
    | '+' :: rest => rest
    | all => all
  let n ← ofDigits? digits
  if n < 0x10000000000000000 then some n else none

end OciBlobs.Text
