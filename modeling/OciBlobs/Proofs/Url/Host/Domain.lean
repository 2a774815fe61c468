/-
# `Proofs.Url.Host.Domain` — names of domains in ASCII

A name in small letters of ASCII stands for itself: it is in composed form, and its
labels stay as they are (`toAscii_of_small`).

What `toAscii?` gives is such a name (`small_of_toAscii`).  Whether it is a domain is
then a matter of its labels alone.  Each one that was put into digits is read as
what it was put for, unless there are more digits than are read (`Label.fits`); so a
name is its own name in ASCII just if all its labels fit (`toAscii_again`).
-/
import OciBlobs.Proofs.Url.Host.Label
import OciBlobs.Url.Host

namespace OciBlobs.Url

variable {text label name : List Char} {c : Char}

theorem Host.forall_of_lt {P : Char → Prop} {bound : Nat} (h : ∀ n < bound, P (Char.ofNat n))
    (hc : c.toNat < bound) : P c := by
  have hn := h c.toNat hc
  rwa [Char.ofNat_toNat] at hn

/-! ## Small letters of ASCII -/

/-- Nothing but ASCII, and none of it a capital letter. -/
def Small (text : List Char) : Prop :=
  ∀ c ∈ text, c.toNat < 0x80 ∧ c.toLower = c

theorem small_of_all (h : text.all (fun c => c.toNat < 0x80 && c.toLower == c) = true) :
    Small text := by
  intro c hc
  have hboth := List.all_eq_true.mp h c hc
  rwa [Bool.and_eq_true, decide_eq_true_eq, beq_iff_eq] at hboth

theorem isLetter_iff (h : c.toNat < 0x80) : Letter.isLetter c = true ↔ c.toLower = c := by
  delta Letter.isLetter
  dsimp only
  rw [if_pos h]
  exact Host.forall_of_lt (P := fun c => (!c.isUpper) = true ↔ c.toLower = c) (by decide) h

theorem isJoiner_of_ascii (h : c.toNat < 0x80) : Joiner.isJoiner c = false :=
  Host.forall_of_lt (P := fun c => Joiner.isJoiner c = false) (by decide) h

theorem isAscii_iff : isAscii text = true ↔ ∀ c ∈ text, c.toNat < 0x80 := by
  simp [isAscii]

theorem Small.isAscii (h : Small text) : isAscii text = true :=
  isAscii_iff.mpr fun c hc => (h c hc).1

theorem Small.compose (h : Small text) : Composed.compose text = text :=
  if_pos h.isAscii

theorem Small.kept (h : Small text) : ∀ c ∈ text, Mapping.of? c = some [c] := by
  intro c hc
  delta Mapping.of?
  rw [if_pos (h c hc).1, (h c hc).2]

theorem Small.isSound (h : Small text) : Label.isSound text = true := by
  rw [Label.isSound, if_pos h.isAscii, List.all_eq_true]
  exact fun c hc => (isLetter_iff (h c hc).1).mpr (h c hc).2

theorem letters_of_isSound (h : Label.isSound label = true) :
    ∀ c ∈ label, (Letter.isLetter c || Joiner.isJoiner c) = true := by
  intro c hc
  unfold Label.isSound at h
  split at h
  · rw [List.all_eq_true.mp h c hc]
    rfl
  · rw [Bool.and_eq_true, Bool.and_eq_true, Bool.and_eq_true, Bool.and_eq_true] at h
    exact List.all_eq_true.mp h.1.1.1.1 c hc

theorem toLower_of_isSound (h : Label.isSound label = true) (hc : c ∈ label)
    (hascii : c.toNat < 0x80) : c.toLower = c := by
  have hletter := letters_of_isSound h c hc
  rw [isJoiner_of_ascii hascii, Bool.or_false] at hletter
  exact (isLetter_iff hascii).mp hletter

/-! ## Labels -/

namespace Label

/-- Whether a label has no more digits than are read. -/
def fits (label : List Char) : Bool :=
  (encoded? label).all (·.length ≤ digitLimit)

theorem encoded_eq_some (h : encoded? label = some text) :
    label = ['x', 'n', '-', '-'] ++ text := by
  unfold encoded? at h
  split at h
  · cases h
    rfl
  · cases h

theorem isAscii_of_encoded (h : encoded? label = some text) : isAscii text = isAscii label := by
  rw [encoded_eq_some h]
  rfl

theorem read_of_small (h : Small label) :
    read? label = match encoded? label with
      | none => some label
      | some text =>
        if digitLimit < text.length then none
        else (decode? text).filter fun label => !isAscii label && isSound label := by
  delta read?
  rw [if_pos h.isSound]
  cases hencoded : encoded? label with
  | none => rfl
  | some text =>
      have hascii := isAscii_of_encoded hencoded
      rw [h.isAscii] at hascii
      simp only [hascii, Bool.not_true, Bool.false_or, decide_eq_true_eq]

theorem isSound_of_read {decoded : List Char} (h : read? label = some decoded) :
    isSound label = true := by
  by_contra hsound
  delta read? at h
  rw [if_neg hsound] at h
  cases h

theorem eq_of_read {decoded : List Char} (h : read? label = some decoded)
    (hascii : isAscii label = false) : decoded = label := by
  have hsound := isSound_of_read h
  delta read? at h
  rw [if_pos hsound] at h
  cases hencoded : encoded? label with
  | none =>
      rw [hencoded] at h
      cases h
      rfl
  | some text =>
      rw [hencoded] at h
      have hbeyond := isAscii_of_encoded hencoded
      rw [hascii] at hbeyond
      simp [hbeyond] at h

theorem fits_of_read {decoded : List Char} (h : read? label = some decoded)
    (hsmall : Small label) : fits label = true := by
  rw [read_of_small hsmall] at h
  unfold fits
  cases hencoded : encoded? label with
  | none => rfl
  | some text =>
      rw [hencoded] at h
      dsimp only at h
      split at h
      · cases h
      case isFalse hlength => exact decide_eq_true (Nat.le_of_not_lt hlength)

theorem small_encode (h : isSound label = true) : Small (encode label) := by
  intro c hc
  rcases mem_encode hc with ⟨hmem, hascii⟩ | hchar
  · exact ⟨hascii, toLower_of_isSound h hmem hascii⟩
  · exact ⟨hchar.1, hchar.2.1⟩

theorem small_of_isAscii (h : isSound label = true) (hascii : isAscii label = true) :
    Small label :=
  fun c hc => ⟨isAscii_iff.mp hascii c hc, toLower_of_isSound h hc (isAscii_iff.mp hascii c hc)⟩

theorem small_written (h : isSound label = true) : Small (written label) := by
  unfold written
  split
  case isTrue hascii => exact small_of_isAscii h hascii
  case isFalse =>
    have hfront : Small ['x', 'n', '-', '-'] := small_of_all (by decide)
    intro c hc
    exact (List.mem_append.mp hc).elim (hfront c) (small_encode h c)

theorem point_not_mem_written (h : '.' ∉ label) : '.' ∉ written label := by
  unfold written
  split
  · exact h
  · intro hm
    rcases List.mem_append.mp hm with hfront | hencode
    · exact absurd hfront (by decide)
    · rcases mem_encode hencode with ⟨hmem, -⟩ | hchar
      · exact h hmem
      · exact hchar.2.2 rfl

/-- A label is read as what it was from what it is written as, if that is not too
long. -/
theorem read_written {decoded : List Char} (h : read? label = some decoded) :
    read? (written label) = if fits (written label) then some decoded else none := by
  have hsound := isSound_of_read h
  have hsmall := small_written hsound
  unfold written at hsmall ⊢
  split
  case isTrue hascii =>
    rw [if_pos hascii] at hsmall
    rw [fits_of_read h hsmall, h]
    rfl
  case isFalse hascii =>
    rw [if_neg hascii] at hsmall
    rw [Bool.not_eq_true] at hascii
    have hread := eq_of_read h hascii
    have hencoded : encoded? (['x', 'n', '-', '-'] ++ encode label) = some (encode label) := rfl
    rw [read_of_small hsmall, fits, hencoded, hread]
    dsimp only
    rw [decode_encode]
    have hkept : (some label).filter (fun label => !isAscii label && isSound label) =
        some label := by
      rw [Option.filter_some, hascii, hsound]
      rfl
    rw [hkept, Option.all_some]
    by_cases hlength : digitLimit < (encode label).length
    · rw [if_pos hlength, if_neg (by simpa using hlength)]
    · rw [if_neg hlength, if_pos (by simpa using hlength)]

end Label

/-! ## Names -/

namespace Host

/-- Where the mapping keeps every character and the text is in composed form, the
labels are those of the text. -/
theorem toAscii_of_kept (h : ∀ c ∈ text, Mapping.of? c = some [c])
    (hcompose : Composed.compose text = text) :
    toAscii? text =
      if isInternational text then
        some (List.intercalate ['.'] ((Text.cutAt '.' text).map Label.written))
      else none := by
  have hpieces : text.mapM Mapping.of? = some (text.map fun c => [c]) := by
    clear hcompose
    induction text with
    | nil => rfl
    | cons c rest ih =>
        rw [List.mapM_cons, h c List.mem_cons_self, ih fun d hd => h d (List.mem_cons_of_mem c hd)]
        rfl
  have hflatten : (text.map fun c => [c]).flatten = text := List.flatMap_singleton' text
  rw [toAscii?, hpieces]
  simp only [Option.bind_eq_bind, Option.bind_some, hflatten, hcompose]

/-- What is small in ASCII is its own name in ASCII if it is one at all. -/
theorem toAscii_of_small (h : Small text) :
    toAscii? text = if isInternational text then some text else none := by
  have hwritten : (Text.cutAt '.' text).map Label.written = Text.cutAt '.' text := by
    refine (List.map_congr_left fun label hl => ?_).trans (List.map_id _)
    have hsmall : Small label := fun c hc => h c (Text.mem_of_cutAt hl hc).2
    rw [Label.written, if_pos hsmall.isAscii]
    rfl
  rw [toAscii_of_kept h.kept h.compose, hwritten, Text.intercalate_cutAt]

variable {labels : List (List Char)} {decoded : List (List Char)}

theorem mapM_written (h : labels.mapM Label.read? = some decoded) :
    (labels.map Label.written).mapM Label.read? =
      if (labels.map Label.written).all Label.fits then some decoded else none := by
  induction labels generalizing decoded with
  | nil => exact h
  | cons label rest ih =>
      rw [List.mapM_cons] at h
      obtain ⟨first, hfirst, h⟩ := Option.bind_eq_some_iff.mp h
      obtain ⟨others, hothers, h⟩ := Option.bind_eq_some_iff.mp h
      cases h
      rw [List.map_cons, List.mapM_cons, Label.read_written hfirst, ih hothers, List.all_cons]
      cases Label.fits (Label.written label) <;>
        cases (rest.map Label.written).all Label.fits <;> rfl

theorem isSound_of_mapM (h : labels.mapM Label.read? = some decoded) :
    ∀ label ∈ labels, Label.isSound label = true := by
  induction labels generalizing decoded with
  | nil => exact fun _ hm => absurd hm List.not_mem_nil
  | cons label rest ih =>
      rw [List.mapM_cons] at h
      obtain ⟨first, hfirst, h⟩ := Option.bind_eq_some_iff.mp h
      obtain ⟨others, hothers, h⟩ := Option.bind_eq_some_iff.mp h
      exact List.forall_mem_cons.mpr ⟨Label.isSound_of_read hfirst, ih hothers⟩

theorem toAscii_eq_some (h : toAscii? text = some name) : ∃ labels decoded,
    labels ≠ [] ∧ (∀ label ∈ labels, '.' ∉ label) ∧ labels.mapM Label.read? = some decoded ∧
      Direction.agree decoded = true ∧
        name = List.intercalate ['.'] (labels.map Label.written) := by
  unfold toAscii? at h
  obtain ⟨pieces, -, h⟩ := Option.bind_eq_some_iff.mp h
  dsimp only at h
  generalize Composed.compose pieces.flatten = composed at h
  split at h
  case isTrue hagree =>
    cases h
    obtain ⟨decoded, hdecoded, hagree⟩ := (Option.any_eq_true _ _).mp hagree
    exact ⟨_, decoded, Text.cutAt_ne_nil '.' composed,
      fun label hl hm => (Text.mem_of_cutAt hl hm).1 rfl, hdecoded, hagree, rfl⟩
  case isFalse => cases h

theorem small_of_toAscii (h : toAscii? text = some name) : Small name := by
  obtain ⟨labels, decoded, -, -, hread, -, rfl⟩ := toAscii_eq_some h
  intro c hc
  rcases Text.mem_of_intercalate hc with rfl | ⟨piece, hpiece, hc⟩
  · decide
  · obtain ⟨label, hl, rfl⟩ := List.mem_map.mp hpiece
    exact Label.small_written (isSound_of_mapM hread label hl) c hc

/-- A name in ASCII is its own, unless it has a label that is too long to be read. -/
theorem toAscii_again (h : toAscii? text = some name) :
    toAscii? name = if (Text.cutAt '.' name).all Label.fits then some name else none := by
  have hsmall := small_of_toAscii h
  obtain ⟨labels, decoded, hne, hpoint, hread, hagree, hname⟩ := toAscii_eq_some h
  have hcut : Text.cutAt '.' name = labels.map Label.written := by
    rw [hname]
    refine Text.cutAt_intercalate (by simpa using hne) fun piece hp => ?_
    obtain ⟨label, hl, rfl⟩ := List.mem_map.mp hp
    exact Label.point_not_mem_written (hpoint label hl)
  rw [toAscii_of_small hsmall, isInternational, hcut, mapM_written hread]
  cases (labels.map Label.written).all Label.fits
  · rfl
  · rw [if_pos rfl, Option.any_some, hagree]

end Host

end OciBlobs.Url
