/-
# `Proofs.Text.Digits` — the digits that a number is written in

Core's `Nat.toDigits` writes a number without zeros in front of it
(`head_toDigits`), in digits of the radix and nothing else (`mem_toDigits`).
Reading digits one by one never makes less of what was read before
(`le_ofDigitChars`), so that a number which fits at its end fitted all along.
In decimal that is how numbers are printed, and `ofDigits?` reads them back.
-/
import OciBlobs.Text.Natural

namespace OciBlobs.Text

variable {radix n : Nat}

theorem mem_toDigits (hl : 1 < radix) {c : Char} (h : c ∈ Nat.toDigits radix n) :
    ∃ d < radix, c = Nat.digitChar d := by
  induction n using Nat.strongRecOn with
  | ind n ih =>
      rw [Nat.toDigits_eq_if hl] at h
      split at h
      case isTrue hlt =>
        rw [List.mem_singleton] at h
        exact ⟨n, hlt, h⟩
      case isFalse hge =>
        rw [List.mem_append, List.mem_singleton] at h
        rcases h with hm | rfl
        · exact ih _ (Nat.div_lt_self (by omega) hl) hm
        · exact ⟨n % radix, Nat.mod_lt n (by omega), rfl⟩

theorem head_toDigits (hl : 1 < radix) (hn : 0 < n) :
    (Nat.toDigits radix n).head? ≠ some '0' := by
  induction n using Nat.strongRecOn with
  | ind n ih =>
      rw [Nat.toDigits_eq_if hl]
      split
      · rw [List.head?_cons, ne_eq, Option.some.injEq, Nat.digitChar_eq_zero]
        omega
      case isFalse hge =>
        have hpos : 0 < n / radix := Nat.div_pos (by omega) (by omega)
        have hfront := ih _ (Nat.div_lt_self (by omega) hl) hpos
        cases hdigits : Nat.toDigits radix (n / radix) with
        | nil => exact absurd hdigits Nat.toDigits_ne_nil
        | cons c rest =>
            rw [hdigits] at hfront
            exact hfront

theorem le_ofDigitChars (digits : List Char) (n : Nat) : n ≤ Nat.ofDigitChars 10 digits n := by
  induction digits generalizing n with
  | nil => exact Nat.le_refl n
  | cons c digits ih =>
      rw [Nat.ofDigitChars_cons]
      exact Nat.le_trans (by omega) (ih _)

theorem isDigit_of_toString {c : Char} (h : c ∈ (toString n).toList) : c.isDigit = true := by
  rw [Nat.toString_eq_ofList_toDigits, String.toList_ofList] at h
  exact Nat.isDigit_of_mem_toDigits (by decide) (by decide) h

/-- A number is read back from its text. -/
theorem ofDigits_toString (n : Nat) : ofDigits? (toString n).toList = some n := by
  have hall : (toString n).toList.all Char.isDigit = true :=
    List.all_eq_true.mpr fun _ => isDigit_of_toString
  have hempty : (toString n).toList.isEmpty = false := by simp
  have hvalue : Nat.ofDigitChars 10 (toString n).toList 0 = n := by
    rw [Nat.toString_eq_ofList_toDigits, String.toList_ofList]
    exact Nat.ofDigitChars_toDigits (by decide) (by decide)
  simp only [Nat.ofDigitChars, Nat.mul_comm 10] at hvalue
  rw [ofDigits?, hall, hempty]
  exact congrArg some hvalue

end OciBlobs.Text
