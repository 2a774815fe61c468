/-
# `Proofs.Url.Percent` — what encoding makes of a text, and what it leaves

A set says which characters a component cannot hold.  A text without any of
them is left as it is (`encode_eq_self`), and encoding any text makes such a
one, if the set spares the characters that escapes are made of
(`kept_encode`): so to encode a second time does nothing.  An escape never
stands for a character that the set spares (`encode_cases`).

Reading is the other direction: without a percent sign a text stands for its
own octets (`decode_of_not_mem`).
-/
import OciBlobs.Proofs.Bytes.Utf8
import OciBlobs.Url.Percent

namespace OciBlobs.Url

/-! ## Escapes -/

theorem decodeBytes_cons_of_ne {b : UInt8} (h : b ≠ 0x25) (rest : Bytes) :
    decodeBytes (b :: rest) = b :: decodeBytes rest := by
  rcases rest with _ | ⟨_, _ | ⟨_, rest⟩⟩
  · rfl
  · rfl
  · rw [decodeBytes, if_neg h]

theorem decodeBytes_escaped {a c : UInt8} {high low : Nat} (ha : hexValue? a = some high)
    (hc : hexValue? c = some low) (rest : Bytes) :
    decodeBytes (0x25 :: a :: c :: rest) = UInt8.ofNat (16 * high + low) :: decodeBytes rest := by
  rw [decodeBytes, if_pos rfl, ha, hc]

theorem hexValue_upperHexDigit : ∀ n < 16,
    Utf8.encodeChar (Bytes.upperHexDigit n) = [UInt8.ofNat (Bytes.upperHexDigit n).toNat] ∧
      hexValue? (UInt8.ofNat (Bytes.upperHexDigit n).toNat) = some n := by
  decide

/-- The characters that escapes are made of. -/
def escapeChars : List Char :=
  ['%', '0', '1', '2', '3', '4', '5', '6', '7', '8', '9', 'A', 'B', 'C', 'D', 'E', 'F']

theorem upperHexDigit_mem : ∀ n < 16, Bytes.upperHexDigit n ∈ escapeChars := by
  decide

theorem mem_escapeChars {b : UInt8} {c : Char} (h : c ∈ escape b) : c ∈ escapeChars := by
  have hhigh := upperHexDigit_mem (b.toNat / 16) (by have := b.toNat_lt; omega)
  have hlow := upperHexDigit_mem (b.toNat % 16) (Nat.mod_lt _ (by decide))
  simp only [escape, List.mem_cons, List.not_mem_nil, or_false] at h
  rcases h with rfl | rfl | rfl
  · decide
  · exact hhigh
  · exact hlow

/-! ## Sets -/

variable {inSet : Char → Bool} {text : List Char}

/-- Nothing in a text is encoded. -/
def Kept (inSet : Char → Bool) (text : List Char) : Prop :=
  ∀ c ∈ text, inSet c = false ∧ c.toNat < 0x80

instance : Decidable (Kept inSet text) :=
  List.decidableBAll _ text

/-- The set leaves escapes alone. -/
abbrev SparesEscapes (inSet : Char → Bool) : Prop :=
  Kept inSet escapeChars

theorem sparesEscapes_inPathSet : SparesEscapes inPathSet := by
  decide

theorem sparesEscapes_inUserinfoSet : SparesEscapes inUserinfoSet := by
  decide

theorem encodeChar_of_kept {c : Char} (h : inSet c = false ∧ c.toNat < 0x80) :
    encodeChar inSet c = [c] := by
  have hascii : ¬0x80 ≤ c.toNat := by omega
  simp [encodeChar, h.1, hascii]

theorem encode_eq_self (h : Kept inSet text) : encode inSet text = text := by
  induction text with
  | nil => rfl
  | cons c rest ih =>
      have hrest : encode inSet rest = rest := ih fun d hd => h d (List.mem_cons_of_mem _ hd)
      rw [encode] at hrest ⊢
      rw [List.flatMap_cons, hrest, encodeChar_of_kept (h c List.mem_cons_self)]
      rfl

theorem kept_encode (hs : SparesEscapes inSet) (text : List Char) :
    Kept inSet (encode inSet text) := by
  intro c hc
  obtain ⟨d, -, hd⟩ := List.mem_flatMap.mp hc
  unfold encodeChar at hd
  split at hd
  · obtain ⟨b, -, hb⟩ := List.mem_flatMap.mp hd
    exact hs c (mem_escapeChars hb)
  case isFalse hplain =>
    rw [List.mem_singleton] at hd
    subst hd
    simpa using hplain

theorem mem_encode {c : Char} (h : c ∈ encode inSet text) : c ∈ escapeChars ∨ c ∈ text := by
  obtain ⟨d, hd, hc⟩ := List.mem_flatMap.mp h
  unfold encodeChar at hc
  split at hc
  · obtain ⟨b, -, hb⟩ := List.mem_flatMap.mp hc
    exact .inl (mem_escapeChars hb)
  · rw [List.mem_singleton] at hc
    exact .inr (hc ▸ hd)

/-! ## Escaped octets -/

/-- Encoding leaves a text as it is, or puts an escape into it; no escape stands
for a character that the set spares. -/
theorem encode_cases (inSet : Char → Bool) (text : List Char) :
    encode inSet text = text ∨ ∃ front b back, encode inSet text = front ++ escape b ++ back ∧
      ∀ spared : Char, inSet spared = false → spared.toNat < 0x80 → b.toNat ≠ spared.toNat := by
  induction text with
  | nil => exact .inl rfl
  | cons c rest ih =>
      rw [encode] at ih ⊢
      rw [List.flatMap_cons]
      cases hc : inSet c || 0x80 ≤ c.toNat with
      | false =>
          have hplain : encodeChar inSet c = [c] := by simp [encodeChar, hc]
          rw [hplain]
          rcases ih with hsame | ⟨front, b, back, hrest, hb⟩
          · exact .inl (congrArg (c :: ·) hsame)
          · exact .inr ⟨c :: front, b, back, congrArg (c :: ·) hrest, hb⟩
      | true =>
          refine .inr ?_
          have hescaped : encodeChar inSet c = (Utf8.encodeChar c).flatMap escape := by
            simp [encodeChar, hc]
          obtain ⟨lead, tail, he, -⟩ := Utf8.step_encodeChar c []
          refine ⟨[], lead, tail.flatMap escape ++ rest.flatMap (encodeChar inSet), ?_, ?_⟩
          · rw [hescaped, he, List.flatMap_cons, List.nil_append, List.append_assoc]
          · intro spared hspared hascii heq
            rcases Utf8.encodeChar_octets (he ▸ List.mem_cons_self) with ⟨hlt, hsame⟩ | ⟨-, hhigh⟩
            · obtain rfl : spared = c := Char.toNat_inj.mp (by omega)
              simp [hspared] at hc
              omega
            · omega

/-! ## Texts without escapes -/

theorem decodeBytes_of_not_mem : ∀ {bytes : Bytes}, 0x25 ∉ bytes → decodeBytes bytes = bytes
  | [], _ => rfl
  | b :: rest, h => by
      rw [List.mem_cons, not_or] at h
      rw [decodeBytes_cons_of_ne (Ne.symm h.1), decodeBytes_of_not_mem h.2]

theorem decode_of_not_mem (h : '%' ∉ text) : decode text = Utf8.encode text := by
  refine decodeBytes_of_not_mem fun hm => ?_
  obtain ⟨c, hc, hb⟩ := List.mem_flatMap.mp hm
  rcases Utf8.encodeChar_octets hb with ⟨-, hsame⟩ | ⟨-, hhigh⟩
  · obtain rfl : '%' = c := Char.toNat_inj.mp (by simpa using hsame)
    exact h hc
  · exact absurd hhigh (by decide)

end OciBlobs.Url
