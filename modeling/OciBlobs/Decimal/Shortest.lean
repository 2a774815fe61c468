/-
# `Decimal.Shortest` — the fewest digits that read back

A binary floating-point number stands for every real that rounds to it.
The text of such a number needs only as many digits as single it out, and
of the decimals with so few digits the nearest one is taken.  Everything
here is exact arithmetic on the significand and exponent; no rounding
function of the machine is trusted.
-/

namespace OciBlobs.Decimal

/-- The decimal `digits * 10 ^ exponent`. -/
structure Scientific where
  digits : Nat
  exponent : Int
deriving DecidableEq, Repr

/-- A positive finite double, as `significand * 2 ^ exponent`; `narrow` says
that the gap below it is half the gap above it. -/
structure Binary where
  significand : Nat
  exponent : Int
  narrow : Bool
deriving DecidableEq, Repr

def Binary.ofBits (bits : UInt64) : Binary :=
  let fraction := (bits &&& 0xFFFFFFFFFFFFF).toNat
  let biased := ((bits >>> 52) &&& 0x7FF).toNat
  if biased = 0 then ⟨fraction, -1074, false⟩
  else ⟨0x10000000000000 + fraction, (biased : Int) - 1075, fraction == 0 && 1 < biased⟩

/-- A power with a negative exponent counted as the power of zero. -/
def powPos (base : Nat) (exponent : Int) : Nat :=
  Nat.pow base exponent.toNat

/-- The decimal on the grid of multiples of `10 ^ grid` that rounds to `x`
and is nearest to it; of two equally near the one with an even last digit. -/
def Binary.onGrid? (x : Binary) (grid : Int) : Option Scientific :=
  -- all quantities in quarters of a unit of the significand
  let scale := x.exponent - 2
  let unit := powPos 10 grid * powPos 2 (-scale)
  let weight := powPos 2 scale * powPos 10 (-grid)
  let value := 4 * x.significand * weight
  let low := (4 * x.significand - (if x.narrow then 1 else 2)) * weight
  let high := (4 * x.significand + 2) * weight
  let inside (d : Nat) : Bool :=
    if x.significand % 2 = 0 then low ≤ d * unit && d * unit ≤ high
    else low < d * unit && d * unit < high
  let below := value / unit
  let above := below + 1
  let toBelow := value - below * unit
  let toAbove := above * unit - value
  if inside below && 0 < below then
    if inside above && (toAbove < toBelow || (toAbove = toBelow && below % 2 = 1))
    then some ⟨above, grid⟩ else some ⟨below, grid⟩
  else if inside above then some ⟨above, grid⟩
  else none

/-- The first hit on ever finer grids, `grid` downwards. -/
def Binary.search (x : Binary) : Nat → Int → Scientific
  | 0, grid => ⟨x.significand, grid⟩
  | steps + 1, grid =>
    match x.onGrid? grid with
    | some decimal => decimal
    | none => x.search steps (grid - 1)

/-- The shortest decimal that rounds to `x`, nearest of those. -/
def Binary.shortest (x : Binary) : Scientific :=
  let start := (x.exponent + 53) * 30103 / 100000 + 2
  x.search 400 start

end OciBlobs.Decimal
