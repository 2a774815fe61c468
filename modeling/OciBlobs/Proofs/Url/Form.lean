/-
# `Proofs.Url.Form` — pairs that were written are read back

Every octet is written so that it is read back (`spells_renderByte`): as
itself, as a plus sign for a blank, or escaped.  No spelling has a mark in it,
so that the written pairs are what a query is cut into again, and each is cut
at its own equals sign.  A text comes back through its octets, and so do all
pairs of texts, in their order (`pairs_render`).

Nothing is said of queries that were written by others.  Those may spell the
same pairs in many ways.
-/
import OciBlobs.Proofs.Url.Percent
import OciBlobs.Url.Form

namespace OciBlobs.Url

namespace Form

variable {b : UInt8} {written : Bytes}

/-! ## How octets are spelled -/

/-- The ways to spell an octet in a query: an octet that is no mark, or an
escape. -/
inductive Spells (b : UInt8) : Bytes → Prop
  | plain {a : UInt8} : a ≠ 0x25 → a ≠ 0x26 → a ≠ 0x3D → (if a = 0x2B then 0x20 else a) = b →
      Spells b [a]
  | escaped {a c : UInt8} {high low : Nat} : hexValue? a = some high → hexValue? c = some low →
      UInt8.ofNat (16 * high + low) = b → Spells b [0x25, a, c]

theorem isLiteral_bounds (h : isLiteral b = true) :
    b.toNat < 0x80 ∧ b ≠ 0x25 ∧ b ≠ 0x26 ∧ b ≠ 0x2B ∧ b ≠ 0x3D := by
  simp only [isLiteral, Bool.or_eq_true, Bool.and_eq_true, decide_eq_true_eq, beq_iff_eq,
    UInt8.le_iff_toNat_le, ← UInt8.toNat_inj, UInt8.reduceToNat, ne_eq] at h ⊢
  omega

theorem spells_escape (b : UInt8) : Spells b (Utf8.encode (escape b)) := by
  have high := hexValue_upperHexDigit (b.toNat / 16) (by have := b.toNat_lt; omega)
  have low := hexValue_upperHexDigit (b.toNat % 16) (Nat.mod_lt _ (by decide))
  have hvalue : UInt8.ofNat (16 * (b.toNat / 16) + b.toNat % 16) = b := by
    rw [Nat.div_add_mod, UInt8.ofNat_toNat]
  simp only [Utf8.encode, escape, List.flatMap_cons, List.flatMap_nil, high.1, low.1]
  exact .escaped high.2 low.2 hvalue

theorem spells_renderByte (b : UInt8) : Spells b (Utf8.encode (renderByte b)) := by
  unfold renderByte
  split
  · obtain ⟨hascii, hpercent, hand, hplus, heq⟩ := isLiteral_bounds ‹_›
    rw [Utf8.encode, List.flatMap_singleton, Utf8.encodeChar_of_lt hascii]
    exact .plain hpercent hand heq (if_neg hplus)
  split
  · subst b
    exact .plain (a := 0x2B) (by decide) (by decide) (by decide) rfl
  · exact spells_escape b

theorem Spells.decodePart (h : Spells b written) (rest : Bytes) :
    decodePart (written ++ rest) = b :: decodePart rest := by
  cases h with
  | @plain a hpercent _ _ hb =>
      have hne : b ≠ 0x25 := by
        rw [← hb]
        split
        · decide
        · exact hpercent
      rw [Form.decodePart, List.singleton_append, List.map_cons, hb, decodeBytes_cons_of_ne hne]
      rfl
  | @escaped a c high low ha hc hb =>
      -- a plus sign would be read as a blank, but it is no digit
      have hplus : hexValue? 0x2B = none := by decide
      have hane : a ≠ 0x2B := by
        rintro rfl
        simp [hplus] at ha
      have hcne : c ≠ 0x2B := by
        rintro rfl
        simp [hplus] at hc
      have hmap : ([0x25, a, c] ++ rest).map (fun x => if x = 0x2B then (0x20 : UInt8) else x) =
          0x25 :: a :: c :: rest.map (fun x => if x = 0x2B then (0x20 : UInt8) else x) := by
        simp [hane, hcne]
      rw [Form.decodePart, hmap, decodeBytes_escaped ha hc, hb]
      rfl

theorem Spells.not_mark (h : Spells b written) : 0x26 ∉ written ∧ 0x3D ∉ written := by
  cases h with
  | plain _ hand heq _ => simp [Ne.symm hand, Ne.symm heq]
  | escaped ha hc _ =>
      have hand : hexValue? 0x26 = none := by decide
      have heq : hexValue? 0x3D = none := by decide
      have hne {mark digit : UInt8} {n : Nat} (hm : hexValue? mark = none)
          (hd : hexValue? digit = some n) : mark ≠ digit := by
        rintro rfl
        simp [hm] at hd
      simp [hne hand ha, hne hand hc, hne heq ha, hne heq hc]

/-! ## Texts and pairs -/

theorem encode_renderPart (text : List Char) :
    Utf8.encode (renderPart text) =
      (Utf8.encode text).flatMap fun b => Utf8.encode (renderByte b) := by
  simp [Utf8.encode, renderPart, List.flatMap_assoc]

theorem decodePart_renderPart (text : List Char) :
    decodePart (Utf8.encode (renderPart text)) = Utf8.encode text := by
  rw [encode_renderPart]
  induction Utf8.encode text with
  | nil => rfl
  | cons b rest ih => rw [List.flatMap_cons, (spells_renderByte b).decodePart, ih]

theorem not_mark_of_renderPart (text : List Char) :
    0x26 ∉ Utf8.encode (renderPart text) ∧ 0x3D ∉ Utf8.encode (renderPart text) := by
  rw [encode_renderPart]
  simp only [List.mem_flatMap, not_exists, not_and]
  exact ⟨fun b _ => (spells_renderByte b).not_mark.1, fun b _ => (spells_renderByte b).not_mark.2⟩

theorem encode_renderPair (pair : List Char × List Char) :
    Utf8.encode (renderPair pair) =
      Utf8.encode (renderPart pair.1) ++ 0x3D :: Utf8.encode (renderPart pair.2) := by
  simp only [renderPair, Utf8.encode, List.flatMap_append, List.flatMap_cons]
  rfl

theorem rawPair_renderPair (pair : List Char × List Char) :
    rawPair (Utf8.encode (renderPair pair)) = (Utf8.encode pair.1, Utf8.encode pair.2) := by
  have hkey : ∀ b ∈ Utf8.encode (renderPart pair.1), (b != 0x3D) = true := by
    intro b hb
    rw [bne_iff_ne]
    rintro rfl
    exact (not_mark_of_renderPart pair.1).2 hb
  rw [rawPair, encode_renderPair, List.takeWhile_append_of_pos hkey,
    List.dropWhile_append_of_pos hkey]
  simp [decodePart_renderPart]

theorem not_mark_of_renderPair (pair : List Char × List Char) :
    0x26 ∉ Utf8.encode (renderPair pair) := by
  rw [encode_renderPair, List.mem_append, List.mem_cons]
  rintro (hkey | heq | hvalue)
  · exact (not_mark_of_renderPart pair.1).1 hkey
  · cases heq
  · exact (not_mark_of_renderPart pair.2).1 hvalue

theorem cutAt_render : ∀ (pair : List Char × List Char) (rest : List (List Char × List Char)),
    Text.cutAt 0x26 (Utf8.encode (render (pair :: rest))) =
      (pair :: rest).map fun pair => Utf8.encode (renderPair pair)
  | pair, [] => Text.cutAt_of_not_mem (not_mark_of_renderPair pair)
  | pair, next :: rest => by
      have hsplit : Utf8.encode (render (pair :: next :: rest)) =
          Utf8.encode (renderPair pair) ++ 0x26 :: Utf8.encode (render (next :: rest)) := by
        simp only [render, Utf8.encode, List.flatMap_append, List.flatMap_cons]
        rfl
      rw [hsplit, Text.cutAt_append (not_mark_of_renderPair pair), cutAt_render next rest]
      rfl

/-- Written pairs are read back as the octets of their texts. -/
theorem rawPairs_render (pairs : List (List Char × List Char)) :
    rawPairs (render pairs) = pairs.map fun pair => (Utf8.encode pair.1, Utf8.encode pair.2) := by
  cases pairs with
  | nil => rfl
  | cons pair rest =>
      -- a written pair has its equals sign, even where both texts are empty
      have hfull : ∀ piece ∈ (pair :: rest).map fun pair => Utf8.encode (renderPair pair),
          (!piece.isEmpty) = true := by
        intro piece hp
        obtain ⟨written, -, rfl⟩ := List.mem_map.mp hp
        simp [encode_renderPair]
      rw [rawPairs, cutAt_render, List.filter_eq_self.mpr hfull, List.map_map]
      exact List.map_congr_left fun written _ => rawPair_renderPair written

theorem pairs_render (pairs : List (List Char × List Char)) : Form.pairs (render pairs) = pairs := by
  rw [Form.pairs, rawPairs_render, List.map_map]
  refine (List.map_congr_left fun pair _ => ?_).trans (List.map_id pairs)
  exact Prod.ext (Utf8.decodeLossy_encode pair.1) (Utf8.decodeLossy_encode pair.2)

end Form

end OciBlobs.Url
