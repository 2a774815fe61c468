/-
# `Proofs.Url.Host.Ipv4` — numbers and addresses from their digits

A number is read back from its digits in any radix up to sixteen
(`ofDigits_toDigits`), and a label of decimal digits is read as the decimal
number that it writes (`number_decimal`), for it has no zero in front that
would make it an octal one.  So an address of four octets is read back from
its text (`parse_render`).
-/
import OciBlobs.Proofs.Text.Digits
import OciBlobs.Proofs.Url.Percent
import OciBlobs.Text.Split
import OciBlobs.Url.Host.Ipv4

namespace OciBlobs.Url.Ipv4

variable {radix n : Nat}

/-! ## Digits -/

theorem digit_digitChar : ∀ radix ≤ 16, ∀ d < radix, digit? radix (Nat.digitChar d) = some d := by
  decide

theorem ofDigits_append (front : List Char) (c : Char) :
    ofDigits? radix (front ++ [c]) =
      (ofDigits? radix front).bind fun n => (digit? radix c).map fun d => n * radix + d := by
  simp only [ofDigits?, List.foldlM_append, List.foldlM_cons, List.foldlM_nil]
  cases List.foldlM (fun n c => (digit? radix c).map fun d => n * radix + d) 0 front with
  | none => rfl
  | some n => cases digit? radix c <;> simp

/-- A number is read back from its digits. -/
theorem ofDigits_toDigits (hl : 1 < radix) (hu : radix ≤ 16) (n : Nat) :
    ofDigits? radix (Nat.toDigits radix n) = some n := by
  induction n using Nat.strongRecOn with
  | ind n ih =>
      rw [Nat.toDigits_eq_if hl]
      split
      case isTrue hlt =>
        rw [← List.nil_append [n.digitChar], ofDigits_append, digit_digitChar radix hu n hlt]
        simp [ofDigits?]
      case isFalse hge =>
        have hless : n / radix < n := Nat.div_lt_self (by omega) hl
        rw [ofDigits_append, ih _ hless, digit_digitChar radix hu _ (Nat.mod_lt n (by omega))]
        simp [Nat.div_add_mod']

theorem digit_of_isDigit {c : Char} (h : c.isDigit = true) : digit? 10 c = some (c.toNat - 48) := by
  obtain ⟨hlow, hhigh⟩ : 48 ≤ c.toNat ∧ c.toNat ≤ 57 := Char.isDigit_iff_toNat.mp h
  have hall : ∀ n < 10, digit? 10 (Char.ofNat (n + 48)) = some n := by decide
  have hc := hall (c.toNat - 48) (by omega)
  rwa [Nat.sub_add_cancel hlow, Char.ofNat_toNat] at hc

theorem ofDigits_of_text {digits : List Char} (h : Text.ofDigits? digits = some n) :
    ofDigits? 10 digits = some n := by
  have hfold {digits : List Char} (hd : ∀ c ∈ digits, c.isDigit = true) (start : Nat) :
      digits.foldlM (fun n c => (digit? 10 c).map fun d => n * 10 + d) start =
        some (digits.foldl (fun n c => n * 10 + (c.toNat - 48)) start) := by
    induction digits generalizing start with
    | nil => rfl
    | cons c rest ih =>
        rw [List.foldlM_cons, digit_of_isDigit (hd c List.mem_cons_self)]
        exact ih (fun d hm => hd d (List.mem_cons_of_mem _ hm)) _
  unfold Text.ofDigits? at h
  split at h
  · cases h
  case isFalse hdigits =>
    cases h
    simp only [Bool.or_eq_true, Bool.not_eq_true', not_or, Bool.not_eq_false] at hdigits
    exact hfold (List.all_eq_true.mp hdigits.2) 0

/-! ## Labels -/

theorem decimal_eq (n : Nat) : decimal n = Nat.toDigits 10 n := by
  rw [decimal, Nat.toString_eq_ofList_toDigits, String.toList_ofList]

theorem isDigit_of_decimal {c : Char} (h : c ∈ decimal n) : c.isDigit = true :=
  Text.isDigit_of_toString h

theorem decimal_ne_nil (n : Nat) : decimal n ≠ [] := by
  rw [decimal_eq]
  exact Nat.toDigits_ne_nil

theorem number_decimal (n : Nat) : number? (decimal n) = some n := by
  have hvalue : ofDigits? 10 (decimal n) = some n := by
    rw [decimal_eq]
    exact ofDigits_toDigits (by decide) (by decide) n
  rcases Nat.eq_zero_or_pos n with rfl | hpos
  · decide
  · have hhead : (decimal n).head? ≠ some '0' := by
      rw [decimal_eq]
      exact Text.head_toDigits (by decide) hpos
    have hne := decimal_ne_nil n
    rw [← hvalue]
    unfold number?
    split <;> simp_all

theorem stop_not_mem_decimal (n : Nat) : '.' ∉ decimal n := by
  intro hm
  exact absurd (isDigit_of_decimal hm) (by decide)

theorem labels_render (address : Nat) :
    labels (render address) =
      [decimal (address / 0x1000000 % 256), decimal (address / 0x10000 % 256),
        decimal (address / 0x100 % 256), decimal (address % 256)] := by
  unfold labels render
  rw [Text.cutAt_append (stop_not_mem_decimal _), Text.cutAt_append (stop_not_mem_decimal _),
    Text.cutAt_append (stop_not_mem_decimal _), Text.cutAt_of_not_mem (stop_not_mem_decimal _)]
  exact if_neg (by simp [decimal_ne_nil])

/-! ## Addresses -/

theorem assemble_lt : ∀ {octets : List Nat} {room last address : Nat},
    assemble octets room last = some address → address < room
  | [], room, last, address, h => by
      rw [assemble] at h
      split at h
      · cases h
        assumption
      · cases h
  | n :: rest, room, last, address, h => by
      rw [assemble] at h
      split at h
      · cases h
      · obtain ⟨tail, ht, rfl⟩ := Option.map_eq_some_iff.mp h
        have hless := assemble_lt ht
        have hn : n * (room / 256) ≤ 255 * (room / 256) := Nat.mul_le_mul_right _ (by omega)
        omega

theorem parse_lt {host : List Char} {address : Nat} (h : parse? host = some address) :
    address < 0x100000000 := by
  unfold parse? at h
  dsimp only at h
  split at h
  · cases h
  · obtain ⟨numbers, -, h⟩ := Option.bind_eq_some_iff.mp h
    obtain ⟨last, -, h⟩ := Option.bind_eq_some_iff.mp h
    exact assemble_lt h

theorem endsInNumber_render (address : Nat) : endsInNumber (render address) = true := by
  have hdigits : (decimal (address % 256)).all Char.isDigit = true :=
    List.all_eq_true.mpr fun _ => isDigit_of_decimal
  have hne : (decimal (address % 256)).isEmpty = false := by simp [decimal_ne_nil]
  rw [endsInNumber, labels_render]
  simp [hdigits, hne]

theorem assemble_octets {a b c d : Nat} (ha : a < 256) (hb : b < 256) (hc : c < 256)
    (hd : d < 256) : assemble [a, b, c] 0x100000000 d =
      some (a * 0x1000000 + (b * 0x10000 + (c * 0x100 + d))) := by
  simp only [assemble]
  rw [if_neg (by omega), if_neg (by omega), if_neg (by omega), if_pos (by omega)]
  rfl

theorem parse_render {address : Nat} (h : address < 0x100000000) :
    parse? (render address) = some address := by
  unfold parse?
  rw [labels_render]
  simp only [List.length_cons, List.length_nil, List.mapM_cons, List.mapM_nil, number_decimal,
    Option.pure_def, Option.bind_eq_bind, Option.bind_some, List.getLast?_cons_cons,
    List.getLast?_singleton, List.dropLast_cons_cons, List.dropLast_singleton]
  rw [if_neg (by decide), assemble_octets (by omega) (by omega) (by omega) (by omega)]
  congr 1
  omega

theorem mem_render {address : Nat} {c : Char} (h : c ∈ render address) :
    c.isDigit = true ∨ c = '.' := by
  simp only [render, List.mem_append, List.mem_cons] at h
  rcases h with h | rfl | h | rfl | h | rfl | h
  · exact .inl (isDigit_of_decimal h)
  · exact .inr rfl
  · exact .inl (isDigit_of_decimal h)
  · exact .inr rfl
  · exact .inl (isDigit_of_decimal h)
  · exact .inr rfl
  · exact .inl (isDigit_of_decimal h)

end OciBlobs.Url.Ipv4
