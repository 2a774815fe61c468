/-
# `Proofs.Log.Size` — what a printed size says

A size is printed in tenths of a unit, so what it says is a multiple of a tenth
of that unit.  Rounding goes to a whole number that is no more than half a step
away (`roundHalfEven_within`), so that no other multiple is nearer
(`nearest_of_within`), and it keeps the order of counts (`roundHalfEven_mono`).

Between units the order is kept because all counts at which a unit begins are
whole numbers of every smaller unit: such a count is printed exactly
(`inUnit_of_dvd`), so that a smaller one in the smaller unit says no more than it
(`saying_le_octets`), and a greater one in the greater unit no less
(`octets_le_saying`).

The other side is a reader: `amount?` takes a printed size as a number of octets,
and knows of nothing but its text.
-/
import Mathlib.Algebra.Order.Ring.Rat
import Mathlib.Tactic.Linarith
import Mathlib.Tactic.NormNum
import Mathlib.Tactic.Positivity
import Mathlib.Tactic.Ring
import OciBlobs.Log.Size
import OciBlobs.Proofs.Text.Digits
import OciBlobs.Text.Natural
import OciBlobs.Text.Split

namespace OciBlobs

/-! ## Rounding -/

namespace Decimal

variable {num den : Nat}

theorem roundHalfEven_within (hden : 0 < den) (num : Nat) :
    2 * (roundHalfEven num den * den) ≤ 2 * num + den ∧
      2 * num ≤ 2 * (roundHalfEven num den * den) + den := by
  have hsplit : num / den * den + num % den = num := Nat.div_add_mod' num den
  have hrest : num % den < den := Nat.mod_lt num hden
  have hnext : (num / den + 1) * den = num / den * den + den := Nat.succ_mul _ _
  unfold roundHalfEven
  dsimp only
  split
  case isTrue hup =>
    simp only [Bool.or_eq_true, Bool.and_eq_true, decide_eq_true_eq] at hup
    omega
  case isFalse hdown =>
    simp only [Bool.or_eq_true, Bool.and_eq_true, decide_eq_true_eq, not_or] at hdown
    omega

/-- Rounding keeps the order: within one step the rest decides, and a tie goes the
same way for both. -/
theorem roundHalfEven_mono {less : Nat} (h : less ≤ num) :
    roundHalfEven less den ≤ roundHalfEven num den := by
  have hwhole : less / den ≤ num / den := Nat.div_le_div_right h
  rcases Nat.lt_or_eq_of_le hwhole with hlt | heq
  · calc roundHalfEven less den ≤ less / den + 1 := by unfold roundHalfEven; grind
      _ ≤ num / den := hlt
      _ ≤ roundHalfEven num den := by unfold roundHalfEven; grind
  · have hless : less / den * den + less % den = less := Nat.div_add_mod' less den
    have hnum : num / den * den + num % den = num := Nat.div_add_mod' num den
    have hrest : less % den ≤ num % den := by
      rw [heq] at hless
      omega
    unfold roundHalfEven
    rw [heq]
    grind

theorem roundHalfEven_mul_self (hden : 0 < den) (n : Nat) : roundHalfEven (n * den) den = n := by
  simp [roundHalfEven, Nat.mul_div_cancel n hden, hden.ne]

/-- A whole number of steps that is no more than half a step away is nearest. -/
theorem nearest_of_within {step x : ℚ} {n : ℤ} (h : |n * step - x| ≤ step / 2) (k : ℤ) :
    |n * step - x| ≤ |k * step - x| := by
  have hstep : 0 ≤ step := by linarith [abs_nonneg (n * step - x)]
  rcases eq_or_ne n k with rfl | hne
  · exact le_rfl
  · have hapart : (1 : ℚ) ≤ |(n - k : ℤ)| := by exact_mod_cast Int.one_le_abs (sub_ne_zero.mpr hne)
    have hfar : step ≤ |n * step - k * step| := by
      rw [← sub_mul, abs_mul, abs_of_nonneg hstep, ← Int.cast_sub]
      exact le_mul_of_one_le_left hstep (by exact_mod_cast hapart)
    have hways := abs_sub_le (n * step) x (k * step)
    rw [abs_sub_comm x] at hways
    linarith

end Decimal

/-! ## Reading a size -/

namespace Size

open Decimal

/-- The number that digits write, with or without one decimal place. -/
def decimal? (text : List Char) : Option ℚ :=
  match Text.cutAt '.' text with
  | [whole] => (Text.ofDigits? whole).map fun n : Nat => (n : ℚ)
  | [whole, [place]] =>
    (Text.ofDigits? whole).bind fun n : Nat =>
      (Text.ofDigits? [place]).map fun d : Nat => (n + d / 10 : ℚ)
  | _ => none

/-- The octets that the abbreviation of a unit stands for. -/
def octets? : List Char → Option ℚ
  | ['B'] => some 1
  | ['K', 'B'] => some 1024
  | ['M', 'B'] => some (1024 ^ 2)
  | ['G', 'B'] => some (1024 ^ 3)
  | _ => none

/-- The number of octets that the text of a size says. -/
def amount? (text : String) : Option ℚ :=
  match Text.cutAt ' ' text.toList with
  | [number, unit] => (decimal? number).bind fun n => (octets? unit).map fun u => n * u
  | _ => none

/-! ## What is printed -/

theorem Unit.octets_pos (unit : Unit) : 0 < unit.octets := by
  cases unit <;> decide

theorem Unit.octets_dvd {less unit : Unit} (h : less.octets ≤ unit.octets) :
    less.octets ∣ unit.octets := by
  cases less <;> cases unit <;> revert h <;> decide

theorem Unit.le_octets (unit : Unit) : 1024 ≤ unit.octets := by
  cases unit <;> decide

theorem Unit.for_octets {count : Nat} (h : 1024 ≤ count) :
    (Unit.for count).octets ≤ count ∧
      ∀ unit : Unit, unit.octets ≤ count → unit.octets ≤ (Unit.for count).octets := by
  unfold Unit.for
  split
  · exact ⟨h, fun unit hu => by cases unit <;> simp only [Unit.octets] at * <;> omega⟩
  · split
    · exact ⟨by simp only [Unit.octets]; omega,
        fun unit hu => by cases unit <;> simp only [Unit.octets] at * <;> omega⟩
    · exact ⟨by simp only [Unit.octets]; omega,
        fun unit hu => by cases unit <;> simp only [Unit.octets] at * <;> omega⟩

/-- A count to the nearest tenth of a unit, in octets. -/
def inUnit (unit : Unit) (count : Nat) : ℚ :=
  roundHalfEven (count * 10) unit.octets * (unit.octets / 10)

/-- What the printed size of a count says. -/
def saying (count : Nat) : ℚ :=
  if count < 1024 then count else inUnit (Unit.for count) count

theorem saying_of_lt {count : Nat} (h : count < 1024) : saying count = count :=
  if_pos h

theorem saying_of_le {count : Nat} (h : 1024 ≤ count) :
    saying count = inUnit (Unit.for count) count :=
  if_neg (Nat.not_lt.mpr h)

theorem inUnit_within (unit : Unit) (count : Nat) :
    |inUnit unit count - count| ≤ unit.octets / 10 / 2 := by
  obtain ⟨hlow, hhigh⟩ := roundHalfEven_within unit.octets_pos (count * 10)
  have hlow' : 2 * ((roundHalfEven (count * 10) unit.octets : ℚ) * unit.octets) ≤
      2 * (count * 10) + unit.octets := by exact_mod_cast hlow
  have hhigh' : 2 * ((count : ℚ) * 10) ≤
      2 * (roundHalfEven (count * 10) unit.octets * unit.octets) + unit.octets := by
    exact_mod_cast hhigh
  unfold inUnit
  rw [abs_le]
  constructor <;> linarith

theorem inUnit_nearest (unit : Unit) (count : Nat) (n : ℤ) :
    |inUnit unit count - count| ≤ |n * (unit.octets / 10 : ℚ) - count| :=
  nearest_of_within (inUnit_within unit count) n

theorem inUnit_mono (unit : Unit) {less count : Nat} (h : less ≤ count) :
    inUnit unit less ≤ inUnit unit count := by
  have hround : roundHalfEven (less * 10) unit.octets ≤ roundHalfEven (count * 10) unit.octets :=
    roundHalfEven_mono (Nat.mul_le_mul_right 10 h)
  exact mul_le_mul_of_nonneg_right (by exact_mod_cast hround) (by positivity)

theorem inUnit_of_dvd {unit : Unit} {count : Nat} (h : unit.octets ∣ count) :
    inUnit unit count = count := by
  obtain ⟨n, rfl⟩ := h
  have htenths : unit.octets * n * 10 = n * 10 * unit.octets := by ring
  rw [inUnit, htenths, roundHalfEven_mul_self unit.octets_pos]
  push_cast
  ring

/-! ## Order -/

theorem saying_le_octets {unit : Unit} {count : Nat} (h : count ≤ unit.octets) :
    saying count ≤ unit.octets := by
  rcases Nat.lt_or_ge count 1024 with hsmall | hlarge
  · rw [saying_of_lt hsmall]
    exact_mod_cast h
  · have hless : (Unit.for count).octets ≤ unit.octets := (Unit.for_octets hlarge).1.trans h
    calc saying count = inUnit (Unit.for count) count := saying_of_le hlarge
      _ ≤ inUnit (Unit.for count) unit.octets := inUnit_mono _ h
      _ = unit.octets := inUnit_of_dvd (Unit.octets_dvd hless)

theorem octets_le_saying {unit : Unit} {count : Nat} (h : unit.octets ≤ count) :
    (unit.octets : ℚ) ≤ saying count := by
  have hlarge : 1024 ≤ count := unit.le_octets.trans h
  obtain ⟨hreached, hlargest⟩ := Unit.for_octets hlarge
  calc (unit.octets : ℚ) ≤ (Unit.for count).octets := by exact_mod_cast hlargest unit h
    _ = inUnit (Unit.for count) (Unit.for count).octets := (inUnit_of_dvd dvd_rfl).symm
    _ ≤ inUnit (Unit.for count) count := inUnit_mono _ hreached
    _ = saying count := (saying_of_le hlarge).symm

/-- A greater count is printed as no less: in one unit by rounding, and in two by
the unit in which the greater one is printed. -/
theorem saying_mono {less count : Nat} (h : less ≤ count) : saying less ≤ saying count := by
  rcases Nat.lt_or_ge count 1024 with hsmall | hlarge
  · rw [saying_of_lt hsmall, saying_of_lt (h.trans_lt hsmall)]
    exact_mod_cast h
  · obtain ⟨hreached, hlargest⟩ := Unit.for_octets hlarge
    rcases Nat.lt_or_ge less (Unit.for count).octets with hbelow | habove
    · exact (saying_le_octets hbelow.le).trans (octets_le_saying hreached)
    · have hless : 1024 ≤ less := (Unit.le_octets _).trans habove
      have hunit : (Unit.for less).octets = (Unit.for count).octets :=
        le_antisymm (hlargest _ ((Unit.for_octets hless).1.trans h))
          ((Unit.for_octets hless).2 _ habove)
      rw [saying_of_le hlarge, saying_of_le hless, inUnit, inUnit, hunit]
      exact inUnit_mono (Unit.for count) h

/-! ## Texts -/

theorem nearestDouble_of_lt {n : Nat} (h : n < 2 ^ 53) : nearestDouble n = n :=
  if_pos h

theorem inUnit_eq_tenths {count : Nat} (h : count < 2 ^ 53) (unit : Unit) :
    inUnit unit count = (tenthsOf count unit.octets : ℚ) / 10 * unit.octets := by
  rw [inUnit, tenthsOf, nearestDouble_of_lt h]
  ring

theorem whole_add_tenth (tenths : Nat) :
    ((tenths / 10 : Nat) + (tenths % 10 : Nat) / 10 : ℚ) = tenths / 10 := by
  have hsplit : ((10 * (tenths / 10) + tenths % 10 : Nat) : ℚ) = tenths := by
    rw [Nat.div_add_mod]
  push_cast at hsplit
  linarith

theorem decimal_toString (n : Nat) : decimal? (toString n).toList = some (n : ℚ) := by
  have hstop : '.' ∉ (toString n).toList := fun hm => nomatch Text.isDigit_of_toString hm
  rw [decimal?, Text.cutAt_of_not_mem hstop]
  simp only [Text.ofDigits_toString, Option.map_some]

theorem decimal_showTenths (tenths : Nat) :
    decimal? (showTenths tenths).toList = some (tenths / 10 : ℚ) := by
  have hstop (n : Nat) : '.' ∉ (toString n).toList := fun hm => nomatch Text.isDigit_of_toString hm
  have htext : (showTenths tenths).toList =
      (toString (tenths / 10)).toList ++ '.' :: (toString (tenths % 10)).toList := by
    simp [showTenths]
  obtain ⟨place, hplace⟩ : ∃ place, (toString (tenths % 10)).toList = [place] := by
    rw [Nat.toString_eq_ofList_toDigits, String.toList_ofList,
      Nat.toDigits_of_lt_base (Nat.mod_lt _ (by decide))]
    exact ⟨_, rfl⟩
  have hvalue : Text.ofDigits? [place] = some (tenths % 10) := hplace ▸ Text.ofDigits_toString _
  rw [htext, hplace, decimal?, Text.cutAt_append (hstop _),
    Text.cutAt_of_not_mem (hplace ▸ hstop _)]
  simp only [Text.ofDigits_toString, hvalue, Option.bind_some, Option.map_some,
    whole_add_tenth]

theorem octets_symbol (unit : Unit) : octets? unit.symbol.toList = some (unit.octets : ℚ) := by
  cases unit
  · exact congrArg some (by norm_num [Unit.octets])
  · exact congrArg some (by norm_num [Unit.octets])
  · exact congrArg some (by norm_num [Unit.octets])

theorem amount_of_parts {number unit : List Char} {text : String}
    (htext : text.toList = number ++ ' ' :: unit) (hn : ' ' ∉ number) (hu : ' ' ∉ unit) {n u : ℚ}
    (hnumber : decimal? number = some n) (hunit : octets? unit = some u) :
    amount? text = some (n * u) := by
  rw [amount?, htext, Text.cutAt_append hn, Text.cutAt_of_not_mem hu]
  simp only [hnumber, hunit, Option.bind_some, Option.map_some]

theorem render_of_le {count : Nat} (h : 1024 ≤ count) :
    render count = showTenths (tenthsOf count (Unit.for count).octets) ++ " " ++
      (Unit.for count).symbol :=
  if_neg (Nat.not_lt.mpr h)

theorem amount_render {count : Nat} (h : count < 2 ^ 53) :
    amount? (render count) = some (saying count) := by
  have hblank (n : Nat) : ' ' ∉ (toString n).toList := fun hm =>
    nomatch Text.isDigit_of_toString hm
  rcases Nat.lt_or_ge count 1024 with hsmall | hlarge
  · have htext : (render count).toList = (toString count).toList ++ ' ' :: ['B'] := by
      simp [render, hsmall]
    rw [amount_of_parts htext (hblank _) (by decide) (decimal_toString count) rfl, mul_one,
      saying_of_lt hsmall]
  · have hnumber (tenths : Nat) : ' ' ∉ (showTenths tenths).toList := by
      rw [showTenths, String.toList_append, String.toList_append, List.mem_append, List.mem_append]
      rintro ((hm | hm) | hm)
      · exact hblank _ hm
      · exact absurd hm (by decide)
      · exact hblank _ hm
    have hunit : ' ' ∉ (Unit.for count).symbol.toList := by
      cases Unit.for count <;> decide
    have htext : (render count).toList =
        (showTenths (tenthsOf count (Unit.for count).octets)).toList ++
          ' ' :: (Unit.for count).symbol.toList := by
      simp [render_of_le hlarge]
    rw [amount_of_parts htext (hnumber _) hunit (decimal_showTenths _) (octets_symbol _),
      saying_of_le hlarge, inUnit_eq_tenths h]

/-- The size of a count is printed as it is below 1024 and else with one decimal,
in the largest unit that the count reaches and to the nearest tenth of it; and no
smaller count is printed as more. -/
theorem sizes_near_and_in_order {count : Nat} (h : count < 2 ^ 53) :
    ∃ amount, amount? (render count) = some amount ∧
      (count < 1024 → render count = toString count ++ " B" ∧ amount = count) ∧
      (1024 ≤ count → ∃ (unit : Unit) (whole tenth : Nat),
        unit.octets ≤ count ∧ (∀ other : Unit, other.octets ≤ count → other.octets ≤ unit.octets) ∧
        tenth < 10 ∧
        render count = toString whole ++ "." ++ toString tenth ++ " " ++ unit.symbol ∧
        amount = (whole + tenth / 10 : ℚ) * unit.octets ∧
        (∀ n : ℤ, |amount - count| ≤ |n * (unit.octets / 10 : ℚ) - count|) ∧
        |amount - count| ≤ (unit.octets / 20 : ℚ)) ∧
      ∀ less ≤ count, ∃ lower, amount? (render less) = some lower ∧ lower ≤ amount := by
  refine ⟨saying count, amount_render h, fun hsmall => ?_, fun hlarge => ?_, fun less hless => ?_⟩
  · exact ⟨if_pos hsmall, saying_of_lt hsmall⟩
  · obtain ⟨hreached, hlargest⟩ := Unit.for_octets hlarge
    refine ⟨Unit.for count, tenthsOf count (Unit.for count).octets / 10,
      tenthsOf count (Unit.for count).octets % 10, hreached, hlargest, Nat.mod_lt _ (by decide),
      render_of_le hlarge, ?_, fun n => ?_, ?_⟩
    · rw [saying_of_le hlarge, inUnit_eq_tenths h, whole_add_tenth]
    · exact saying_of_le hlarge ▸ inUnit_nearest _ _ n
    · have hwithin := inUnit_within (Unit.for count) count
      rw [saying_of_le hlarge]
      linarith
  · exact ⟨saying less, amount_render (hless.trans_lt h), saying_mono hless⟩

/-- Where two units meet: the greatest count below a megabyte is printed as all of
it, in kilobytes. -/
theorem sizes_near_and_in_order_between_units :
    1048576 < 2 ^ 53 ∧ render 1048575 = "1024.0 KB" ∧ render 1048576 = "1.0 MB" ∧
      ∃ lower amount, amount? (render 1048575) = some lower ∧
        amount? (render 1048576) = some amount ∧ lower ≤ amount := by
  have hbound : 1048576 < 2 ^ 53 := by decide
  obtain ⟨amount, hamount, -, -, horder⟩ := sizes_near_and_in_order hbound
  obtain ⟨lower, hlower, hle⟩ := horder 1048575 (by decide)
  exact ⟨hbound, by decide +kernel, by decide +kernel, lower, amount, hlower, hamount, hle⟩

end Size

end OciBlobs
