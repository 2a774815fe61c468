/-
# `Proofs.Url.Host.Han` — domains of Han characters

The first block of Han has 20992 characters that all labels hold, that are made of
no others and join with none, and that run from left to right.  So a text of them
is a domain of one label, which is written in digits alone (`Host.parse_of_han`).

Not every such domain is one in ASCII.  If its characters are each a little higher
than the one before, it takes nearly three digits for each of them
(`le_length_write_ladder`), and with 800 characters these are more than are read
(`not_fits_ladder`).
-/
import OciBlobs.Proofs.Url.Host
import OciBlobs.Proofs.Url.Host.Composed

namespace OciBlobs.Url

variable {text : List Char} {c : Char}

/-! ## Where the tables have no Han -/

/-- Ranges that are all below or above some code points have none of them. -/
theorem liesIn_eq_false {ranges : List (Nat × Nat)} (low high : Nat)
    (h : ranges.all (fun range => range.2 < low || high < range.1) = true)
    (hl : low ≤ c.toNat) (hh : c.toNat ≤ high) : liesIn ranges c = false := by
  rw [liesIn, List.any_eq_false]
  intro range hm
  have hrange := List.all_eq_true.mp h range hm
  simp only [Bool.or_eq_true, decide_eq_true_eq] at hrange
  simp only [Bool.and_eq_true, decide_eq_true_eq]
  omega

theorem liesIn_eq_true {ranges : List (Nat × Nat)} (low high : Nat)
    (h : ranges.any (fun range => range.1 ≤ low && high ≤ range.2) = true)
    (hl : low ≤ c.toNat) (hh : c.toNat ≤ high) : liesIn ranges c = true := by
  obtain ⟨range, hm, hrange⟩ := List.any_eq_true.mp h
  simp only [Bool.and_eq_true, decide_eq_true_eq] at hrange
  rw [liesIn, List.any_eq_true]
  refine ⟨range, hm, ?_⟩
  simp only [Bool.and_eq_true, decide_eq_true_eq]
  omega

namespace Composed

theorem find_of_apart {classes : List (Nat × Nat × Nat)} (low high : Nat)
    (h : classes.all (fun range => range.2.1 < low || high < range.1) = true)
    (hl : low ≤ c.toNat) (hh : c.toNat ≤ high) :
    (classes.find? fun range => range.1 ≤ c.toNat && c.toNat ≤ range.2.1) = none := by
  rw [List.find?_eq_none]
  intro range hm
  have hrange := List.all_eq_true.mp h range hm
  simp only [Bool.or_eq_true, decide_eq_true_eq] at hrange
  simp only [Bool.and_eq_true, decide_eq_true_eq]
  omega

/-- Code points of the first block of Han. -/
def isHan (n : Nat) : Bool :=
  0x4E00 ≤ n && n ≤ 0x9FFF

section
variable {composites : List (Nat × List Char × List Char)} (hc : isHan c.toNat = true)
  (h : composites.all (fun row => !isHan row.1 && row.2.2.all fun made =>
    !isHan made.toNat) = true)
include hc h

theorem lookup_of_han : composites.lookup c.toNat = none := by
  rw [List.lookup_eq_none_iff]
  intro row hm
  have hrow := List.all_eq_true.mp h row hm
  rw [Bool.and_eq_true, Bool.not_eq_true'] at hrow
  rw [bne_iff_ne]
  intro heq
  rw [heq, hrow.1] at hc
  cases hc

theorem findSome_of_han : (composites.findSome? fun row =>
    ((row.2.2.zip row.2.1).lookup c).map fun base => (base, Char.ofNat row.1)) = none := by
  rw [List.findSome?_eq_none_iff]
  intro row hm
  rw [Option.map_eq_none_iff, List.lookup_eq_none_iff]
  intro pair hpair
  have hrow := List.all_eq_true.mp h row hm
  rw [Bool.and_eq_true] at hrow
  have hmade := List.all_eq_true.mp hrow.2 pair.1 (List.of_mem_zip hpair).1
  rw [bne_iff_ne]
  rintro rfl
  rw [hc] at hmade
  cases hmade

end

theorem hangul_of_han {base : Char} (h : isHan c.toNat = true) : hangul? base c = none := by
  simp only [isHan, Bool.and_eq_true, decide_eq_true_eq] at h
  unfold hangul?
  dsimp only
  rw [if_neg (by omega), if_neg (by omega)]

theorem hangulParts_of_han (h : isHan c.toNat = true) : hangulParts? c = none := by
  simp only [isHan, Bool.and_eq_true, decide_eq_true_eq] at h
  exact if_neg (by omega)

/-- No mark has one of these code points, and no character that is made of
others. -/
theorem composites_of_han : composites.all (fun row => !isHan row.1 && row.2.2.all fun made =>
    !isHan made.toNat) = true := by
  decide +kernel

theorem order_of_han (h : isHan c.toNat = true) : Mark.order c = 0 := by
  have hfind : (Mark.classes.find? fun range =>
      range.1 ≤ c.toNat && c.toNat ≤ range.2.1) = none := by
    simp only [isHan, Bool.and_eq_true, decide_eq_true_eq] at h
    exact find_of_apart 0x4E00 0x9FFF (by decide +kernel) h.1 h.2
  delta Mark.order
  rw [hfind]

theorem inert_of_han (h : isHan c.toNat = true) : Inert c := by
  constructor
  case parts =>
    delta parts?
    rw [findSome_of_han h composites_of_han]
    exact hangulParts_of_han h
  case order => exact order_of_han h
  case join =>
    intro base
    delta join?
    rw [lookup_of_han h composites_of_han]
    exact hangul_of_han h

end Composed

open Composed (isHan)

theorem toNat_of_han (h : isHan c.toNat = true) : 0x4E00 ≤ c.toNat ∧ c.toNat ≤ 0x9FFF := by
  simpa [isHan] using h

theorem isLetter_of_han (h : isHan c.toNat = true) : Letter.isLetter c = true := by
  obtain ⟨hl, hh⟩ := toNat_of_han h
  have hletters : liesIn Letter.letters c = true :=
    liesIn_eq_true 0x4E00 0x9FFF (by decide +kernel) hl hh
  delta Letter.isLetter
  dsimp only
  rw [if_neg (by omega), hletters, Bool.true_or]

theorem isMark_of_han (h : isHan c.toNat = true) : Mark.isMark c = false := by
  obtain ⟨hl, hh⟩ := toNat_of_han h
  rw [Mark.isMark, Bool.or_eq_false_iff]
  exact ⟨liesIn_eq_false 0x4E00 0x9FFF (by decide +kernel) hl hh,
    liesIn_eq_false 0x4E00 0x9FFF (by decide +kernel) hl hh⟩

theorem isJoiner_of_han (h : isHan c.toNat = true) : Joiner.isJoiner c = false := by
  obtain ⟨hl, -⟩ := toNat_of_han h
  rw [Joiner.isJoiner, Bool.or_eq_false_iff]
  constructor <;>
    · rw [beq_eq_false_iff_ne]
      rintro rfl
      exact absurd hl (by decide)

theorem areFitting_of_no_joiner (h : ∀ c ∈ text, Joiner.isJoiner c = false) (before : List Char) :
    Joiner.areFitting before text = true := by
  induction text generalizing before with
  | nil => rfl
  | cons c rest ih =>
      rw [Joiner.areFitting, h c List.mem_cons_self, ih fun d hd => h d (List.mem_cons_of_mem c hd)]
      rfl

theorem direction_of_han (h : isHan c.toNat = true) :
    Direction.of c ≠ .leftward ∧ Direction.of c ≠ .arabicNumber := by
  obtain ⟨hl, hh⟩ := toNat_of_han h
  have hleftward : liesIn Direction.leftwardLetters c = false :=
    liesIn_eq_false 0x4E00 0x9FFF (by decide +kernel) hl hh
  have harabic : liesIn Direction.arabicNumbers c = false :=
    liesIn_eq_false 0x4E00 0x9FFF (by decide +kernel) hl hh
  delta Direction.of
  simp only [hleftward, harabic, Bool.false_eq_true, if_false]
  constructor <;> (repeat' split) <;> decide

/-! ## Domains -/

section
variable (h : ∀ c ∈ text, isHan c.toNat = true)
include h

theorem compose_of_han : Composed.compose text = text :=
  Composed.compose_of_inert fun c hc => Composed.inert_of_han (h c hc)

theorem kept_of_han : ∀ c ∈ text, Mapping.of? c = some [c] := by
  intro c hc
  have hrange := toNat_of_han (h c hc)
  delta Mapping.of?
  rw [if_neg (by omega), isLetter_of_han (h c hc), Bool.true_or, if_pos rfl]

theorem isAscii_of_han (hne : text ≠ []) : isAscii text = false := by
  obtain ⟨c, rest, rfl⟩ := List.exists_cons_of_ne_nil hne
  have hrange := toNat_of_han (h c List.mem_cons_self)
  rw [isAscii, List.all_cons, decide_eq_false (by omega), Bool.false_and]

theorem isSound_of_han (hne : text ≠ []) (hlength : text.length ≤ Label.characterLimit) :
    Label.isSound text = true := by
  have hletters : (text.all fun c => Letter.isLetter c || Joiner.isJoiner c) = true := by
    rw [List.all_eq_true]
    intro c hc
    rw [isLetter_of_han (h c hc), Bool.true_or]
  have hmark : (text.head?.any Mark.isMark) = false := by
    cases text with
    | nil => rfl
    | cons c rest =>
        rw [List.head?_cons, Option.any_some, isMark_of_han (h c List.mem_cons_self)]
  have hjoiners : Joiner.areFitting [] text = true :=
    areFitting_of_no_joiner (fun c hc => isJoiner_of_han (h c hc)) []
  rw [Label.isSound, isAscii_of_han h hne, hletters, hmark, compose_of_han h, hjoiners,
    beq_self_eq_true, decide_eq_true hlength]
  rfl

theorem read_of_han (hne : text ≠ []) (hlength : text.length ≤ Label.characterLimit) :
    Label.read? text = some text := by
  have hencoded : Label.encoded? text = none := by
    unfold Label.encoded?
    split
    · exact absurd (h 'x' List.mem_cons_self) (by decide)
    · rfl
  delta Label.read?
  rw [if_pos (isSound_of_han h hne hlength), hencoded]

theorem isInternational_of_han (hne : text ≠ []) (hlength : text.length ≤ Label.characterLimit) :
    Host.isInternational text = true := by
  have hpoint : '.' ∉ text := fun hm => absurd (h '.' hm) (by decide)
  refine Host.isInternational_of_read ?_ fun c hc => direction_of_han (h c hc)
  rw [Text.cutAt_of_not_mem hpoint, List.mapM_cons, read_of_han h hne hlength]
  rfl

theorem encode_of_han : Label.encode text = (Label.write text).1 := by
  have hfront : text.filter (·.toNat < 0x80) = [] := by
    rw [List.filter_eq_nil_iff]
    intro c hc
    have hrange := toNat_of_han (h c hc)
    rw [decide_eq_true_eq]
    omega
  rw [Label.encode, hfront]
  rfl

theorem toAscii_of_han (hne : text ≠ []) (hlength : text.length ≤ Label.characterLimit) :
    Host.toAscii? text = some (['x', 'n', '-', '-'] ++ (Label.write text).1) := by
  have hpoint : '.' ∉ text := fun hm => absurd (h '.' hm) (by decide)
  have hwritten : Label.written text = ['x', 'n', '-', '-'] ++ (Label.write text).1 := by
    rw [Label.written, isAscii_of_han h hne, if_neg Bool.false_ne_true, encode_of_han h]
  rw [Host.toAscii_of_kept (kept_of_han h) (compose_of_han h),
    if_pos (isInternational_of_han h hne hlength), Text.cutAt_of_not_mem hpoint, List.map_singleton,
    hwritten, List.intercalate_singleton]

end

theorem plain_digits (text : List Char) :
    Host.Plain (['x', 'n', '-', '-'] ++ (Label.write text).1) := by
  have hfront : Host.Plain ['x', 'n', '-', '-'] := Host.plain_of_all (by decide)
  intro c hc
  rcases List.mem_append.mp hc with hc | hc
  · exact hfront c hc
  · obtain ⟨digit, hlt, rfl⟩ := Label.mem_write text hc
    exact (by decide : ∀ digit < 36, Host.forbiddenInDomain (Label.digitOf digit) = false) digit hlt

theorem point_not_mem_digits (text : List Char) :
    '.' ∉ ['x', 'n', '-', '-'] ++ (Label.write text).1 := by
  intro hm
  rcases List.mem_append.mp hm with hc | hc
  · exact absurd hc (by decide)
  · obtain ⟨digit, hlt, heq⟩ := Label.mem_write text hc
    exact (Label.digitOf_char hlt).2.2.2 heq.symm

theorem endsInNumber_encoded (text : List Char) :
    Ipv4.endsInNumber (['x', 'n', '-', '-'] ++ (Label.write text).1) = false := by
  have hlabels : Ipv4.labels (['x', 'n', '-', '-'] ++ (Label.write text).1) =
      [['x', 'n', '-', '-'] ++ (Label.write text).1] := by
    unfold Ipv4.labels
    rw [Text.cutAt_of_not_mem (point_not_mem_digits text)]
    simp
  rw [Ipv4.endsInNumber, hlabels]
  rfl

theorem Host.parse_of_han (h : ∀ c ∈ text, isHan c.toNat = true) (hne : text ≠ [])
    (hlength : text.length ≤ Label.characterLimit) :
    Host.parse text = .ok (.domain (['x', 'n', '-', '-'] ++ (Label.write text).1)) := by
  have hhead : text.head? ≠ some '[' := fun hh =>
    absurd (h '[' (List.mem_of_head? hh)) (by decide)
  have hpercent : '%' ∉ text := fun hm => absurd (h '%' hm) (by decide)
  have hname : Host.ofName (['x', 'n', '-', '-'] ++ (Label.write text).1) =
      .ok (.domain (['x', 'n', '-', '-'] ++ (Label.write text).1)) := by
    rw [Host.ofName_plain (plain_digits text) (List.cons_ne_nil _ _), endsInNumber_encoded]
    rfl
  rw [Host.parse, if_neg hhead, decode_of_not_mem hpercent, Utf8.decode_encode, Option.bind_some,
    toAscii_of_han h hne hlength]
  exact hname

/-! ## A domain that takes too many digits -/

namespace Label

theorem cutGreatest_concat (hc : 0x80 ≤ c.toNat) (h : ∀ d ∈ text, d.toNat ≤ c.toNat) :
    cutGreatest? (text ++ [c]) = some (text, c, []) := by
  induction text with
  | nil =>
      unfold cutGreatest?
      exact if_neg (Nat.not_lt.mpr hc)
  | cons first rest ih =>
      have hrest := ih fun d hd => h d (List.mem_cons_of_mem _ hd)
      have hfirst := h first List.mem_cons_self
      rw [List.cons_append, cutGreatest?, hrest]
      exact if_neg (Nat.not_lt.mpr hfirst)

/-- A step of a ladder. -/
def rung (place : Nat) : Char :=
  Char.ofNat (0x4E00 + 24 * place)

/-- Characters in ascending order, each as far from the next one. -/
def ladder (length : Nat) : List Char :=
  (List.range length).map rung

theorem toNat_rung {place : Nat} (h : place ≤ 800) : (rung place).toNat = 0x4E00 + 24 * place :=
  Utf8.toNat_ofNat_of_valid (.inl (by omega))

theorem ladder_succ (length : Nat) : ladder (length + 1) = ladder length ++ [rung length] := by
  rw [ladder, List.range_succ, List.map_append]
  rfl

theorem length_ladder (length : Nat) : (ladder length).length = length := by
  rw [ladder, List.length_map, List.length_range]

theorem cutGreatest_ladder {length : Nat} (h : length ≤ 800) :
    cutGreatest? (ladder (length + 1)) = some (ladder length, rung length, []) := by
  rw [ladder_succ]
  refine cutGreatest_concat (by rw [toNat_rung h]; omega) fun d hd => ?_
  obtain ⟨place, hplace, rfl⟩ := List.mem_map.mp hd
  have hlt := List.mem_range.mp hplace
  rw [toNat_rung h, toNat_rung (by omega)]
  omega

/-- From one step to the next it is the farther the more characters there are. -/
theorem write_ladder {length : Nat} (h : length + 1 ≤ 800) :
    (write (ladder (length + 2))).1 =
      (write (ladder (length + 1))).1 ++
        number (write (ladder (length + 1))).2.bias 36 (24 * (length + 2)) := by
  have hcode : (write (ladder (length + 1))).2.code = (rung length).toNat := by
    rw [write_of_some (cutGreatest_ladder (by omega))]
  have hstart : (write (ladder (length + 1))).2.start = length + 1 := by
    rw [write_of_some (cutGreatest_ladder (by omega))]
    exact congrArg (· + 1) (length_ladder length)
  have hdistance : ((rung (length + 1)).toNat - (rung length).toNat) *
      (ladder (length + 2)).length + (ladder (length + 1)).length - (length + 1) =
        24 * (length + 2) := by
    rw [toNat_rung h, toNat_rung (by omega), length_ladder, length_ladder, Nat.add_sub_cancel]
    congr 1
    omega
  rw [write_of_some (cutGreatest_ladder h), List.append_nil, hcode, hstart, hdistance]

theorem le_length_write_ladder (length : Nat) (h : length ≤ 801) :
    3 * length ≤ (write (ladder length)).1.length + 120 := by
  induction length with
  | zero => exact Nat.zero_le _
  | succ length ih =>
      have hbefore := ih (by omega)
      cases length with
      | zero => omega
      | succ length =>
          rw [write_ladder (by omega), List.length_append]
          by_cases hfar : 936 ≤ 24 * (length + 2)
          · have hthree := three_le_length_number hfar (write (ladder (length + 1))).2.bias 36
            omega
          · omega

theorem han_of_ladder {length : Nat} (h : length ≤ 801) (hc : c ∈ ladder length) :
    isHan c.toNat = true := by
  obtain ⟨place, hplace, rfl⟩ := List.mem_map.mp hc
  have hlt := List.mem_range.mp hplace
  rw [toNat_rung (by omega), isHan, Bool.and_eq_true, decide_eq_true_eq, decide_eq_true_eq]
  omega

end Label

theorem not_fits_ladder :
    (Host.domain (['x', 'n', '-', '-'] ++ (Label.write (Label.ladder 800)).1)).fits = false := by
  have hdigits := Label.le_length_write_ladder 800 (by omega)
  have hlong : ¬ (Label.write (Label.ladder 800)).1.length ≤ Label.digitLimit := by
    rw [Label.digitLimit]
    omega
  have hencoded : Label.encoded? (['x', 'n', '-', '-'] ++ (Label.write (Label.ladder 800)).1) =
      some (Label.write (Label.ladder 800)).1 := rfl
  rw [Host.fits, Text.cutAt_of_not_mem (point_not_mem_digits _), List.all_cons, Label.fits,
    hencoded, Option.all_some, decide_eq_false hlong, Bool.false_and]

end OciBlobs.Url
