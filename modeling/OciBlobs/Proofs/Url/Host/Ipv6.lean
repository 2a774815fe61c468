/-
# `Proofs.Url.Host.Ipv6` — addresses of eight pieces from their text

The canonical text of an address leaves out one stretch of zeros, which is put
back when the text is read (`parse_render`).  It has no other `::`, since each
piece has a digit (`cutDouble_renderPieces`); and the stretch that is left out
consists of zeros, wherever it is (`longestZeros_spec`).

Whatever text is read as an address, its pieces are eight and each has sixteen
bits (`parse_spec`).
-/
import Mathlib.Algebra.Group.Nat.Defs
import Mathlib.Data.List.Induction
import OciBlobs.Proofs.Url.Host.Ipv4
import OciBlobs.Url.Host.Ipv6

namespace OciBlobs.Url.Ipv6

/-! ## Pieces and their digits -/

theorem renderPiece_ne_nil (piece : Nat) : renderPiece piece ≠ [] :=
  Nat.toDigits_ne_nil

theorem mem_renderPiece {piece : Nat} {c : Char} (h : c ∈ renderPiece piece) :
    c ≠ ':' ∧ c ≠ '.' ∧ c ≠ '[' ∧ c ≠ ']' := by
  have hplain : ∀ d < 16, Nat.digitChar d ≠ ':' ∧ Nat.digitChar d ≠ '.' ∧
      Nat.digitChar d ≠ '[' ∧ Nat.digitChar d ≠ ']' := by decide
  obtain ⟨d, hd, rfl⟩ := Text.mem_toDigits (by decide) h
  exact hplain d hd

theorem colon_not_mem_renderPiece (piece : Nat) : ':' ∉ renderPiece piece :=
  fun hm => (mem_renderPiece hm).1 rfl

theorem piece_renderPiece {piece : Nat} (h : piece < 0x10000) :
    piece? (renderPiece piece) = some piece := by
  have hlength : (Nat.toDigits 16 piece).length ≤ 4 :=
    (Nat.length_toDigits_le_iff (by decide) (by decide)).mpr h
  have hne : (renderPiece piece).isEmpty = false := by simp [renderPiece_ne_nil]
  unfold piece?
  rw [hne, renderPiece, Bool.false_or, if_neg (by simpa using hlength)]
  exact Ipv4.ofDigits_toDigits (by decide) (by decide) piece

theorem mem_renderPieces {c : Char} : ∀ {pieces : List Nat}, c ∈ renderPieces pieces →
    c = ':' ∨ ∃ piece, c ∈ renderPiece piece
  | [], h => by cases h
  | [piece], h => .inr ⟨piece, h⟩
  | piece :: next :: rest, h => by
      rw [renderPieces, List.mem_append, List.mem_cons] at h
      rcases h with h | rfl | h
      · exact .inr ⟨piece, h⟩
      · exact .inl rfl
      · exact mem_renderPieces h
      · nofun

theorem cutAt_renderPieces : ∀ {pieces : List Nat}, pieces ≠ [] →
    Text.cutAt ':' (renderPieces pieces) = pieces.map renderPiece
  | [], h => absurd rfl h
  | [piece], _ => Text.cutAt_of_not_mem (colon_not_mem_renderPiece piece)
  | piece :: next :: rest, _ => by
      rw [renderPieces, Text.cutAt_append (colon_not_mem_renderPiece piece),
        cutAt_renderPieces (List.cons_ne_nil next rest)]
      · rfl
      · nofun

theorem groups_renderPiece : ∀ {pieces : List Nat}, (∀ piece ∈ pieces, piece < 0x10000) →
    groups? (pieces.map renderPiece) = some pieces
  | [], _ => rfl
  | [piece], h => by
      have hstop : (renderPiece piece).contains '.' = false := by
        rw [List.contains_eq_mem, decide_eq_false_iff_not]
        exact fun hm => (mem_renderPiece hm).2.1 rfl
      simp only [List.map_cons, List.map_nil, groups?, hstop,
        piece_renderPiece (h piece List.mem_cons_self)]
      rfl
  | piece :: next :: rest, h => by
      have hrest : groups? ((next :: rest).map renderPiece) = some (next :: rest) :=
        groups_renderPiece fun other hm => h other (List.mem_cons_of_mem _ hm)
      rw [List.map_cons] at hrest
      rw [List.map_cons, List.map_cons, groups?, piece_renderPiece (h piece List.mem_cons_self),
        hrest]
      · rfl
      · nofun

theorem renderPieces_cons (piece : Nat) (rest : List Nat) :
    ∃ c text, renderPieces (piece :: rest) = c :: text ∧ c ≠ ':' := by
  cases hp : renderPiece piece with
  | nil => exact absurd hp (renderPiece_ne_nil piece)
  | cons c digits =>
      have hc : c ≠ ':' := (mem_renderPiece (hp ▸ List.mem_cons_self)).1
      cases rest with
      | nil => exact ⟨c, digits, hp, hc⟩
      | cons next rest => exact ⟨c, _, by rw [renderPieces, hp, List.cons_append]; nofun, hc⟩

theorem pieces_renderPieces {pieces : List Nat} (h : ∀ piece ∈ pieces, piece < 0x10000) :
    pieces? (renderPieces pieces) = some pieces := by
  cases pieces with
  | nil => rfl
  | cons piece rest =>
      obtain ⟨c, text, ht, -⟩ := renderPieces_cons piece rest
      rw [pieces?, if_neg (by simp [ht]),
        cutAt_renderPieces (List.cons_ne_nil piece rest), groups_renderPiece h]

/-! ## The two colons -/

theorem cutDouble_append {front : List Char} (h : ':' ∉ front) (rest : List Char) :
    cutDouble (front ++ rest) = (cutDouble rest).map fun cut => (front ++ cut.1, cut.2) := by
  induction front with
  | nil => cases hr : cutDouble rest <;> simp [hr]
  | cons c front ih =>
      rw [List.mem_cons, not_or] at h
      rw [List.cons_append, cutDouble, ih h.2, Option.map_map]
      · rfl
      · intro _ hc
        exact absurd hc.symm h.1

theorem cutDouble_colon {c : Char} (h : c ≠ ':') (rest : List Char) :
    cutDouble (':' :: c :: rest) =
      (cutDouble (c :: rest)).map fun cut => (':' :: cut.1, cut.2) := by
  rw [cutDouble]
  intro _ _ hc
  exact h (List.cons.inj hc).1

theorem cutDouble_renderPieces (rest : List Char) : ∀ pieces : List Nat,
    cutDouble (renderPieces pieces ++ rest) =
      (cutDouble rest).map fun cut => (renderPieces pieces ++ cut.1, cut.2)
  | [] => by cases hr : cutDouble rest <;> simp [renderPieces, hr]
  | [piece] => cutDouble_append (colon_not_mem_renderPiece piece) rest
  | piece :: next :: more => by
      have hmore := cutDouble_renderPieces rest (next :: more)
      obtain ⟨c, text, ht, hc⟩ := renderPieces_cons next more
      rw [ht, List.cons_append] at hmore
      rw [renderPieces, ht, List.append_assoc,
        cutDouble_append (colon_not_mem_renderPiece piece), List.cons_append,
        List.cons_append, cutDouble_colon hc, hmore]
      · simp [Option.map_map, Function.comp_def]
      · nofun

/-! ## Stretches of zeros -/

theorem take_leadingZeros : ∀ pieces : List Nat,
    leadingZeros pieces ≤ pieces.length ∧
      pieces.take (leadingZeros pieces) = List.replicate (leadingZeros pieces) 0
  | [] => ⟨Nat.le_refl 0, rfl⟩
  | 0 :: rest => by
      obtain ⟨hle, htake⟩ := take_leadingZeros rest
      rw [leadingZeros, List.take_succ_cons, htake, List.replicate_succ]
      exact ⟨Nat.succ_le_succ hle, rfl⟩
  | (_ + 1) :: _ => ⟨Nat.zero_le _, rfl⟩

/-- The longest stretch lies within the pieces, and all of it is zeros. -/
theorem longestZeros_spec : ∀ (index piece : Nat) (rest : List Nat),
    ∃ start, (longestZeros index (piece :: rest)).1 = index + start ∧
      start + (longestZeros index (piece :: rest)).2 ≤ (piece :: rest).length ∧
      ((piece :: rest).drop start).take (longestZeros index (piece :: rest)).2 =
        List.replicate (longestZeros index (piece :: rest)).2 0
  | index, piece, rest => by
      obtain ⟨hle, htake⟩ := take_leadingZeros (piece :: rest)
      rw [longestZeros]
      split
      · exact ⟨0, rfl, by omega, htake⟩
      case isFalse hlater =>
        cases rest with
        | nil => exact absurd (Nat.zero_le _) hlater
        | cons next rest =>
            obtain ⟨start, hs, hbound, hzeros⟩ := longestZeros_spec (index + 1) next rest
            refine ⟨start + 1, by omega, ?_, hzeros⟩
            rw [List.length_cons]
            omega

/-- The canonical text writes all pieces, or those before and those behind a
stretch of zeros. -/
theorem render_cases {pieces : List Nat} (h : pieces ≠ []) :
    render pieces = renderPieces pieces ∨ ∃ front count back,
      pieces = front ++ List.replicate count 0 ++ back ∧ 2 ≤ count ∧
        render pieces = renderPieces front ++ ':' :: ':' :: renderPieces back := by
  cases pieces with
  | nil => exact absurd rfl h
  | cons piece rest =>
      obtain ⟨start, hs, hbound, hzeros⟩ := longestZeros_spec 0 piece rest
      unfold render
      dsimp only
      split
      · exact .inl rfl
      case isFalse hcount =>
        refine .inr ⟨_, _, _, ?_, Nat.le_of_not_lt hcount, rfl⟩
        rw [hs, Nat.zero_add, ← hzeros, List.append_assoc, ← List.drop_drop,
          List.take_append_drop, List.take_append_drop]

theorem mem_render {pieces : List Nat} (h : pieces ≠ []) {c : Char} (hc : c ∈ render pieces) :
    c = ':' ∨ ∃ piece, c ∈ renderPiece piece := by
  rcases render_cases h with hr | ⟨front, count, back, -, -, hr⟩
  · exact mem_renderPieces (hr ▸ hc)
  · rw [hr, List.mem_append, List.mem_cons, List.mem_cons] at hc
    rcases hc with hc | hc | hc | hc
    · exact mem_renderPieces hc
    · exact .inl hc
    · exact .inl hc
    · exact mem_renderPieces hc

/-! ## Addresses -/

theorem stop_not_mem_renderPieces (pieces : List Nat) :
    (renderPieces pieces).contains '.' = false := by
  rw [List.contains_eq_mem, decide_eq_false_iff_not]
  intro hm
  rcases mem_renderPieces hm with hc | ⟨piece, hc⟩
  · cases hc
  · exact (mem_renderPiece hc).2.1 rfl

/-- An address is read back from its canonical text. -/
theorem parse_render {pieces : List Nat} (hlength : pieces.length = 8)
    (h : ∀ piece ∈ pieces, piece < 0x10000) : parse? (render pieces) = some pieces := by
  have hne : pieces ≠ [] := by
    rintro rfl
    cases hlength
  rcases render_cases hne with hr | ⟨front, count, back, hsplit, hcount, hr⟩
  · have hnone := cutDouble_renderPieces [] pieces
    rw [List.append_nil] at hnone
    rw [hr, parse?, hnone]
    simp [cutDouble, pieces_renderPieces h, hlength]
  · have hcut := cutDouble_renderPieces (':' :: ':' :: renderPieces back) front
    rw [cutDouble, Option.map_some, List.append_nil] at hcut
    have hfront : pieces? (renderPieces front) = some front :=
      pieces_renderPieces fun piece hm => h piece (by simp [hsplit, hm])
    have hback : pieces? (renderPieces back) = some back :=
      pieces_renderPieces fun piece hm => h piece (by simp [hsplit, hm])
    have htotal : front.length + count + back.length = 8 := by
      rw [← hlength, hsplit]
      simp only [List.length_append, List.length_replicate]
    have hmissing : 8 - front.length - back.length = count := by omega
    rw [hr, parse?, hcut]
    dsimp only
    rw [stop_not_mem_renderPieces, if_neg (by decide), hfront, hback]
    simp only [Option.bind_eq_bind, Option.bind_some]
    rw [if_pos (by omega), hmissing, hsplit]

/-! ## What is read as an address -/

theorem digit_lt {radix d : Nat} {c : Char} (h : Ipv4.digit? radix c = some d) : d < radix := by
  unfold Ipv4.digit? at h
  split at h
  · split at h
    · cases h
      assumption
    · cases h
  · cases h

theorem ofDigits_lt {radix : Nat} : ∀ {digits : List Char} {n : Nat},
    Ipv4.ofDigits? radix digits = some n → n < radix ^ digits.length := by
  intro digits
  induction digits using List.reverseRecOn with
  | nil =>
      intro n h
      cases h
      exact Nat.one_pos
  | append_singleton front c ih =>
      intro n h
      rw [Ipv4.ofDigits_append] at h
      obtain ⟨high, hhigh, h⟩ := Option.bind_eq_some_iff.mp h
      obtain ⟨d, hd, rfl⟩ := Option.map_eq_some_iff.mp h
      have hless := ih hhigh
      have hdigit := digit_lt hd
      rw [List.length_append, List.length_singleton, Nat.pow_succ]
      calc high * radix + d < high * radix + radix := Nat.add_lt_add_left hdigit _
        _ = (high + 1) * radix := (Nat.succ_mul high radix).symm
        _ ≤ radix ^ front.length * radix := Nat.mul_le_mul_right radix hless

theorem piece_lt {group : List Char} {piece : Nat} (h : piece? group = some piece) :
    piece < 0x10000 := by
  unfold piece? at h
  split at h
  · cases h
  case isFalse hshort =>
    have hlength : group.length ≤ 4 := by simp at hshort; omega
    calc piece < 16 ^ group.length := ofDigits_lt h
      _ ≤ 16 ^ 4 := Nat.pow_le_pow_right (by decide) hlength

theorem plainOctet_lt {label : List Char} {octet : Nat} (h : Ipv4.plainOctet? label = some octet) :
    octet < 256 := by
  unfold Ipv4.plainOctet? at h
  split at h
  · cases h
  · obtain ⟨n, -, h⟩ := Option.bind_eq_some_iff.mp h
    split at h
    · cases h
      omega
    · cases h

theorem plain_lt {text : List Char} {address : Nat} (h : Ipv4.plain? text = some address) :
    address < 0x100000000 := by
  unfold Ipv4.plain? at h
  split at h
  · obtain ⟨a, ha, h⟩ := Option.bind_eq_some_iff.mp h
    obtain ⟨b, hb, h⟩ := Option.bind_eq_some_iff.mp h
    obtain ⟨c, hc, h⟩ := Option.bind_eq_some_iff.mp h
    obtain ⟨d, hd, h⟩ := Option.bind_eq_some_iff.mp h
    cases h
    have := plainOctet_lt ha
    have := plainOctet_lt hb
    have := plainOctet_lt hc
    have := plainOctet_lt hd
    omega
  · cases h

theorem groups_lt : ∀ {groups : List (List Char)} {pieces : List Nat},
    groups? groups = some pieces → ∀ piece ∈ pieces, piece < 0x10000
  | [], pieces, h => by
      cases h
      nofun
  | [group], pieces, h => by
      rw [groups?] at h
      split at h
      · obtain ⟨address, ha, rfl⟩ := Option.map_eq_some_iff.mp h
        have hless := plain_lt ha
        intro piece hm
        simp only [List.mem_cons, List.not_mem_nil, or_false] at hm
        rcases hm with rfl | rfl <;> omega
      · obtain ⟨only, ho, rfl⟩ := Option.map_eq_some_iff.mp h
        intro piece hm
        rw [List.mem_singleton] at hm
        subst hm
        exact piece_lt ho
  | group :: next :: rest, pieces, h => by
      rw [groups?] at h
      · obtain ⟨first, hf, h⟩ := Option.bind_eq_some_iff.mp h
        obtain ⟨more, hm, h⟩ := Option.bind_eq_some_iff.mp h
        cases h
        intro piece hp
        rcases List.mem_cons.mp hp with rfl | hp
        · exact piece_lt hf
        · exact groups_lt hm piece hp
      · nofun

theorem pieces_lt {text : List Char} {pieces : List Nat} (h : pieces? text = some pieces) :
    ∀ piece ∈ pieces, piece < 0x10000 := by
  unfold pieces? at h
  split at h
  · cases h
    nofun
  · exact groups_lt h

theorem parse_spec {text : List Char} {pieces : List Nat} (h : parse? text = some pieces) :
    pieces.length = 8 ∧ ∀ piece ∈ pieces, piece < 0x10000 := by
  unfold parse? at h
  split at h
  · obtain ⟨all, ha, h⟩ := Option.bind_eq_some_iff.mp h
    split at h
    case isTrue hlength =>
      cases h
      exact ⟨hlength, pieces_lt ha⟩
    case isFalse => cases h
  · split at h
    · cases h
    obtain ⟨left, hl, h⟩ := Option.bind_eq_some_iff.mp h
    obtain ⟨right, hr, h⟩ := Option.bind_eq_some_iff.mp h
    split at h
    case isFalse => cases h
    case isTrue hless =>
      cases h
      constructor
      · simp only [List.length_append, List.length_replicate]
        omega
      · intro piece hm
        rw [List.mem_append, List.mem_append] at hm
        rcases hm with (hm | hm) | hm
        · exact pieces_lt hl piece hm
        · rw [List.eq_of_mem_replicate hm]
          decide
        · exact pieces_lt hr piece hm

end OciBlobs.Url.Ipv6
