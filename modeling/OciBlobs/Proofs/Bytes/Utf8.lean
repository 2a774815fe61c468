/-
# `Proofs.Bytes.Utf8` — texts and their octets

A text is read back from its octets, whatever follows them.  The reader takes
characters off one at a time, so this is a statement about one character
(`step_encodeChar`), and about each length that its form can have:

    step_one     below U+0080
    step_two     below U+0800
    step_three   below U+10000, and no surrogate
    step_four    below U+110000

The other way round, what the reader takes off are the octets of a character
(`encodeChar_of_step`), so that only replacements lose octets
(`encode_decodeLossy`).
-/
import OciBlobs.Bytes.Utf8

namespace OciBlobs.Utf8

/-! ## Octets by their numbers -/

section
variable {lead b : UInt8} {n : Nat}

theorem toNat_octet (h : n < 256) : (UInt8.ofNat n).toNat = n :=
  UInt8.toNat_ofNat_of_lt' h

theorem toNat_ofNat_of_valid (h : n.isValidChar) : (Char.ofNat n).toNat = n := by
  rw [Char.ofNat, dif_pos h]
  rfl

theorem isTail_iff : isTail b = true ↔ 0x80 ≤ b.toNat ∧ b.toNat < 0xC0 := by
  simp [isTail, UInt8.le_iff_toNat_le, UInt8.lt_iff_toNat_lt]

theorem isSecondOfThree_iff : isSecondOfThree lead b = true ↔
    isTail b = true ∧ ¬(lead.toNat = 0xE0 ∧ b.toNat < 0xA0) ∧
      ¬(lead.toNat = 0xED ∧ 0xA0 ≤ b.toNat) := by
  simp [isSecondOfThree, UInt8.le_iff_toNat_le, UInt8.lt_iff_toNat_lt, ← UInt8.toNat_inj,
    and_assoc, Decidable.imp_iff_not_or]

theorem isSecondOfFour_iff : isSecondOfFour lead b = true ↔
    isTail b = true ∧ ¬(lead.toNat = 0xF0 ∧ b.toNat < 0x90) ∧
      ¬(lead.toNat = 0xF4 ∧ 0x90 ≤ b.toNat) := by
  simp [isSecondOfFour, UInt8.le_iff_toNat_le, UInt8.lt_iff_toNat_lt, ← UInt8.toNat_inj,
    and_assoc, Decidable.imp_iff_not_or]

theorem tail_octet (n : Nat) :
    isTail (UInt8.ofNat (0x80 + n % 0x40)) = true ∧
      tailBits (UInt8.ofNat (0x80 + n % 0x40)) = n % 0x40 := by
  have hn : (UInt8.ofNat (0x80 + n % 0x40)).toNat = 0x80 + n % 0x40 := toNat_octet (by omega)
  unfold tailBits
  rw [isTail_iff]
  omega

end

/-! ## One character -/

section
variable {n : Nat} (rest : Bytes)

theorem step_one (h : n < 0x80) :
    step (UInt8.ofNat n) rest = (some (Char.ofNat n), rest) := by
  have hlead : (UInt8.ofNat n).toNat = n := toNat_octet (by omega)
  have hlt : UInt8.ofNat n < 0x80 := by rwa [UInt8.lt_iff_toNat_lt, hlead]
  unfold step
  rw [if_pos hlt, hlead]

theorem step_two (hl : 0x80 ≤ n) (hu : n < 0x800) :
    step (UInt8.ofNat (0xC0 + n / 0x40)) (UInt8.ofNat (0x80 + n % 0x40) :: rest) =
      (some (Char.ofNat n), rest) := by
  have hlead : (UInt8.ofNat (0xC0 + n / 0x40)).toNat = 0xC0 + n / 0x40 := toNat_octet (by omega)
  have hvalue : (0xC0 + n / 0x40 - 0xC0) * 0x40 + n % 0x40 = n := by omega
  unfold step
  simp only [UInt8.lt_iff_toNat_lt, UInt8.reduceToNat, hlead, tail_octet, if_true]
  rw [if_neg (by omega), if_neg (by omega), if_pos (by omega), hvalue]

theorem step_three (hl : 0x800 ≤ n) (hu : n < 0x10000) (hs : n.isValidChar) :
    step (UInt8.ofNat (0xE0 + n / 0x1000))
        (UInt8.ofNat (0x80 + n / 0x40 % 0x40) :: UInt8.ofNat (0x80 + n % 0x40) :: rest) =
      (some (Char.ofNat n), rest) := by
  have hlead : (UInt8.ofNat (0xE0 + n / 0x1000)).toNat = 0xE0 + n / 0x1000 :=
    toNat_octet (by omega)
  have hsecond : isSecondOfThree (UInt8.ofNat (0xE0 + n / 0x1000))
      (UInt8.ofNat (0x80 + n / 0x40 % 0x40)) = true := by
    -- nothing below U+0800, and no surrogate
    rw [isSecondOfThree_iff, hlead, toNat_octet (by omega)]
    simp only [Nat.isValidChar] at hs
    exact ⟨(tail_octet _).1, by omega, by omega⟩
  have hvalue : (0xE0 + n / 0x1000 - 0xE0) * 0x1000 + n / 0x40 % 0x40 * 0x40 + n % 0x40 = n := by
    omega
  unfold step
  simp only [UInt8.lt_iff_toNat_lt, UInt8.reduceToNat, hlead, hsecond, tail_octet, if_true]
  rw [if_neg (by omega), if_neg (by omega), if_neg (by omega), if_pos (by omega),
    hvalue]

theorem step_four (hl : 0x10000 ≤ n) (hu : n < 0x110000) :
    step (UInt8.ofNat (0xF0 + n / 0x40000))
        (UInt8.ofNat (0x80 + n / 0x1000 % 0x40) :: UInt8.ofNat (0x80 + n / 0x40 % 0x40) ::
          UInt8.ofNat (0x80 + n % 0x40) :: rest) =
      (some (Char.ofNat n), rest) := by
  have hlead : (UInt8.ofNat (0xF0 + n / 0x40000)).toNat = 0xF0 + n / 0x40000 :=
    toNat_octet (by omega)
  have hsecond : isSecondOfFour (UInt8.ofNat (0xF0 + n / 0x40000))
      (UInt8.ofNat (0x80 + n / 0x1000 % 0x40)) = true := by
    -- nothing below U+10000, and nothing above U+10FFFF
    rw [isSecondOfFour_iff, hlead, toNat_octet (by omega)]
    exact ⟨(tail_octet _).1, by omega, by omega⟩
  have hvalue : (0xF0 + n / 0x40000 - 0xF0) * 0x40000 + n / 0x1000 % 0x40 * 0x1000 +
      n / 0x40 % 0x40 * 0x40 + n % 0x40 = n := by
    omega
  unfold step
  simp only [UInt8.lt_iff_toNat_lt, UInt8.reduceToNat, hlead, hsecond, tail_octet, if_true]
  rw [if_neg (by omega), if_neg (by omega), if_neg (by omega), if_neg (by omega),
    if_pos (by omega), hvalue]

end

theorem step_encodeChar (c : Char) (rest : Bytes) :
    ∃ lead tail, encodeChar c = lead :: tail ∧ step lead (tail ++ rest) = (some c, rest) := by
  have hvalid : c.toNat.isValidChar := c.valid
  have hbound : c.toNat < 0x110000 := by
    simp only [Nat.isValidChar] at hvalid
    omega
  have hc : Char.ofNat c.toNat = c := Char.ofNat_toNat c
  unfold encodeChar
  dsimp only
  split
  · exact ⟨_, _, rfl, (step_one rest (by omega)).trans (by rw [hc])⟩
  split
  · exact ⟨_, _, rfl, (step_two rest (by omega) (by omega)).trans (by rw [hc])⟩
  split
  · exact ⟨_, _, rfl, (step_three rest (by omega) (by omega) hvalid).trans (by rw [hc])⟩
  · exact ⟨_, _, rfl, (step_four rest (by omega) hbound).trans (by rw [hc])⟩

/-- The octets of a character are all below U+0080, or none of them is. -/
theorem encodeChar_octets {c : Char} {b : UInt8} (hb : b ∈ encodeChar c) :
    (c.toNat < 0x80 ∧ b.toNat = c.toNat) ∨ (0x80 ≤ c.toNat ∧ 0x80 ≤ b.toNat) := by
  have hvalid : c.toNat.isValidChar := c.valid
  simp only [Nat.isValidChar] at hvalid
  unfold encodeChar at hb
  dsimp only at hb
  split at hb
  case isTrue hascii =>
    rw [List.mem_singleton] at hb
    subst hb
    exact .inl ⟨hascii, toNat_octet (by omega)⟩
  case isFalse hbeyond =>
    refine .inr ⟨by omega, ?_⟩
    split at hb
    · simp only [List.mem_cons, List.not_mem_nil, or_false] at hb
      rcases hb with rfl | rfl <;> rw [toNat_octet (by omega)] <;> omega
    split at hb
    · simp only [List.mem_cons, List.not_mem_nil, or_false] at hb
      rcases hb with rfl | rfl | rfl <;> rw [toNat_octet (by omega)] <;> omega
    · simp only [List.mem_cons, List.not_mem_nil, or_false] at hb
      rcases hb with rfl | rfl | rfl | rfl <;> rw [toNat_octet (by omega)] <;> omega

theorem encodeChar_ne_nil (c : Char) : encodeChar c ≠ [] := by
  obtain ⟨lead, tail, he, -⟩ := step_encodeChar c []
  rw [he]
  exact List.cons_ne_nil _ _

theorem encodeChar_of_lt {b : UInt8} (h : b.toNat < 0x80) :
    encodeChar (Char.ofNat b.toNat) = [b] := by
  have hc : (Char.ofNat b.toNat).toNat = b.toNat :=
    toNat_ofNat_of_valid (.inl (Nat.lt_trans h (by decide)))
  simp [encodeChar, hc, h]

/-! ## One character from its octets -/

section
variable {lead b d e : UInt8} {n : Nat} {c : Char} {rest left : Bytes}

theorem encodeChar_two (hl : 0xC2 ≤ lead.toNat) (hu : lead.toNat < 0xE0)
    (hb : isTail b = true) :
    encodeChar (Char.ofNat ((lead.toNat - 0xC0) * 0x40 + tailBits b)) = [lead, b] := by
  rw [isTail_iff] at hb
  unfold tailBits
  generalize hn : (lead.toNat - 0xC0) * 0x40 + (b.toNat - 0x80) = n
  have hchar : (Char.ofNat n).toNat = n := toNat_ofNat_of_valid (.inl (by omega))
  have hlead : 0xC0 + n / 0x40 = lead.toNat := by omega
  have hsecond : 0x80 + n % 0x40 = b.toNat := by omega
  unfold encodeChar
  rw [hchar, if_neg (by omega), if_pos (by omega), hlead, hsecond]
  simp only [UInt8.ofNat_toNat]

theorem encodeChar_three (hl : 0xE0 ≤ lead.toNat) (hu : lead.toNat < 0xF0)
    (hb : isSecondOfThree lead b = true) (hd : isTail d = true) :
    encodeChar (Char.ofNat ((lead.toNat - 0xE0) * 0x1000 + tailBits b * 0x40 + tailBits d)) =
      [lead, b, d] := by
  rw [isSecondOfThree_iff, isTail_iff] at hb
  rw [isTail_iff] at hd
  unfold tailBits
  generalize hn : (lead.toNat - 0xE0) * 0x1000 + (b.toNat - 0x80) * 0x40 + (d.toNat - 0x80) = n
  -- no surrogate, for these have a lead of their own
  have hvalid : n.isValidChar := by
    simp only [Nat.isValidChar]
    omega
  have hchar : (Char.ofNat n).toNat = n := toNat_ofNat_of_valid hvalid
  have hlead : 0xE0 + n / 0x1000 = lead.toNat := by omega
  have hsecond : 0x80 + n / 0x40 % 0x40 = b.toNat := by omega
  have hthird : 0x80 + n % 0x40 = d.toNat := by omega
  unfold encodeChar
  rw [hchar, if_neg (by omega), if_neg (by omega), if_pos (by omega), hlead, hsecond, hthird]
  simp only [UInt8.ofNat_toNat]

theorem encodeChar_four (hl : 0xF0 ≤ lead.toNat) (hu : lead.toNat < 0xF5)
    (hb : isSecondOfFour lead b = true) (hd : isTail d = true) (he : isTail e = true) :
    encodeChar (Char.ofNat ((lead.toNat - 0xF0) * 0x40000 + tailBits b * 0x1000 +
      tailBits d * 0x40 + tailBits e)) = [lead, b, d, e] := by
  rw [isSecondOfFour_iff, isTail_iff] at hb
  rw [isTail_iff] at hd he
  unfold tailBits
  generalize hn : (lead.toNat - 0xF0) * 0x40000 + (b.toNat - 0x80) * 0x1000 +
    (d.toNat - 0x80) * 0x40 + (e.toNat - 0x80) = n
  have hchar : (Char.ofNat n).toNat = n := toNat_ofNat_of_valid (.inr (by omega))
  have hlead : 0xF0 + n / 0x40000 = lead.toNat := by omega
  have hsecond : 0x80 + n / 0x1000 % 0x40 = b.toNat := by omega
  have hthird : 0x80 + n / 0x40 % 0x40 = d.toNat := by omega
  have hfourth : 0x80 + n % 0x40 = e.toNat := by omega
  unfold encodeChar
  rw [hchar, if_neg (by omega), if_neg (by omega), if_neg (by omega), hlead, hsecond, hthird,
    hfourth]
  simp only [UInt8.ofNat_toNat]

theorem encodeChar_of_step (h : step lead rest = (some c, left)) :
    lead :: rest = encodeChar c ++ left := by
  unfold step at h
  simp only [UInt8.lt_iff_toNat_lt, UInt8.reduceToNat] at h
  split at h
  case isTrue hlt =>
    obtain ⟨rfl, rfl⟩ : Char.ofNat lead.toNat = c ∧ rest = left := by simpa using h
    rw [encodeChar_of_lt hlt]
    rfl
  split at h
  · cases h
  split at h
  · rcases rest with _ | ⟨b, rest⟩
    · cases h
    dsimp only at h
    split at h
    case isFalse => cases h
    case isTrue hb =>
      rw [Prod.mk.injEq, Option.some.injEq] at h
      rw [← h.1, ← h.2, encodeChar_two (by omega) (by omega) hb]
      rfl
  split at h
  · rcases rest with _ | ⟨b, _ | ⟨d, rest⟩⟩
    · cases h
    · dsimp only at h
      split at h <;> cases h
    dsimp only at h
    split at h
    case isFalse => cases h
    case isTrue hb =>
      split at h
      case isFalse => cases h
      case isTrue hd =>
        rw [Prod.mk.injEq, Option.some.injEq] at h
        rw [← h.1, ← h.2, encodeChar_three (by omega) (by omega) hb hd]
        rfl
  split at h
  · rcases rest with _ | ⟨b, _ | ⟨d, _ | ⟨e, rest⟩⟩⟩
    · cases h
    · dsimp only at h
      split at h <;> cases h
    · dsimp only at h
      split at h
      · split at h <;> cases h
      · cases h
    dsimp only at h
    split at h
    case isFalse => cases h
    case isTrue hb =>
      split at h
      case isFalse => cases h
      case isTrue hd =>
        split at h
        case isFalse => cases h
        case isTrue he =>
          rw [Prod.mk.injEq, Option.some.injEq] at h
          rw [← h.1, ← h.2, encodeChar_four (by omega) (by omega) hb hd he]
          rfl
  · cases h

end

/-! ## Texts -/

theorem encode_cons (c : Char) (rest : List Char) :
    encode (c :: rest) = encodeChar c ++ encode rest :=
  List.flatMap_cons

theorem encode_append (front back : List Char) :
    encode (front ++ back) = encode front ++ encode back :=
  List.flatMap_append

theorem length_encode_lt {front : List Char} (h : front ≠ []) (back : List Char) :
    (encode back).length < (encode (front ++ back)).length := by
  obtain ⟨c, front, rfl⟩ := List.exists_cons_of_ne_nil h
  have hpos := List.length_pos_iff.mpr (encodeChar_ne_nil c)
  rw [encode_append, List.length_append, encode_cons, List.length_append]
  omega

theorem decodeLossy_encodeChar (c : Char) (rest : Bytes) :
    decodeLossy (encodeChar c ++ rest) = c :: decodeLossy rest := by
  obtain ⟨lead, tail, he, hs⟩ := step_encodeChar c rest
  rw [he, List.cons_append, decodeLossy, hs]
  rfl

theorem decodeLossy_encode (text : List Char) : decodeLossy (encode text) = text := by
  induction text with
  | nil => simp [encode, decodeLossy]
  | cons c rest ih =>
      rw [encode, List.flatMap_cons, decodeLossy_encodeChar]
      exact congrArg (c :: ·) ih

/-- Octets that were read without a replacement are those of what was read. -/
theorem encode_decodeLossy {bytes : Bytes} (h : Char.ofNat 0xFFFD ∉ decodeLossy bytes) :
    encode (decodeLossy bytes) = bytes := by
  induction bytes using decodeLossy.induct with
  | case1 => simp [decodeLossy, encode]
  | case2 b rest ih =>
      rw [decodeLossy, List.mem_cons, not_or] at h
      rw [decodeLossy, encode, List.flatMap_cons]
      cases hstep : step b rest with
      | mk first left =>
      rw [hstep] at h ih
      cases first with
      | none => exact absurd rfl h.1
      | some c => rw [encodeChar_of_step hstep]; exact congrArg _ (ih h.2)

theorem decode_encode (text : List Char) : decode? (encode text) = some text := by
  induction text with
  | nil => simp [encode, decode?]
  | cons c rest ih =>
      obtain ⟨lead, tail, he, hs⟩ := step_encodeChar c (encode rest)
      rw [encode, List.flatMap_cons, he, List.cons_append, decode?]
      rw [encode] at ih hs
      rw [hs, ih]
      rfl

end OciBlobs.Utf8
