/-
# `Proofs.Url.Host.Label` — labels from their own digits

The digits of a number lead a draft to the goal that the number is for
(`feedAll_number`).  A number is written for the last of the greatest characters of
a text, and its goal is the place of that character (`insert_at`); what is written
before it is for the text without the character.  So the draft of a reader comes to
the whole text (`feedAll_write`), and an encoded label is decoded as itself
(`decode_encode`).

How many digits that takes depends on the distances between the characters.  A
number from 936 on has at least three of them, whatever the bias.
-/
import Mathlib.Tactic.Ring
import OciBlobs.Proofs.Bytes.Utf8
import OciBlobs.Url.Host.Label

namespace OciBlobs.Url.Label

variable {text front back : List Char} {c : Char}

/-! ## Digits and numbers -/

theorem threshold_pos (bias position : Nat) : 1 ≤ threshold bias position :=
  Nat.le_max_left ..

theorem threshold_le (bias position : Nat) : threshold bias position ≤ 26 := by
  unfold threshold
  omega

theorem digit_digitOf {value : Nat} (h : value < 36) : digit? (digitOf value) = some value :=
  (by decide : ∀ value < 36, digit? (digitOf value) = some value) value h

theorem digitOf_char {value : Nat} (h : value < 36) :
    (digitOf value).toNat < 0x80 ∧ (digitOf value).toLower = digitOf value ∧
      digitOf value ≠ '-' ∧ digitOf value ≠ '.' :=
  (by decide : ∀ value < 36, (digitOf value).toNat < 0x80 ∧
    (digitOf value).toLower = digitOf value ∧ digitOf value ≠ '-' ∧ digitOf value ≠ '.') value h

theorem mem_number (bias position value : Nat) (h : c ∈ number bias position value) :
    ∃ digit < 36, c = digitOf digit := by
  have hpos := threshold_pos bias position
  have hle := threshold_le bias position
  unfold number at h
  dsimp only at h
  split at h
  · rw [List.mem_singleton] at h
    exact ⟨value, by omega, h⟩
  case isFalse hge =>
    rcases List.mem_cons.mp h with rfl | h
    · have hmod := Nat.mod_lt (value - threshold bias position)
        (y := 36 - threshold bias position) (by omega)
      exact ⟨_, by omega, rfl⟩
    · exact mem_number bias (position + 36) _ h
termination_by value
decreasing_by
  exact Nat.lt_of_le_of_lt (Nat.div_le_self ..) (by omega)

namespace Draft

theorem feedAll_append (draft : Draft) (digits more : List Char) :
    draft.feedAll? (digits ++ more) = (draft.feedAll? digits).bind (·.feedAll? more) := by
  induction digits generalizing draft with
  | nil => rfl
  | cons c rest ih =>
      rw [List.cons_append, feedAll?, feedAll?]
      cases digit? c with
      | none => rfl
      | some digit =>
          cases hfeed : draft.feed? digit with
          | none => simp [hfeed]
          | some next => simp [hfeed, ih]

theorem feed_digit (draft : Draft) {digit : Nat} (h : threshold draft.bias draft.position ≤ digit) :
    draft.feed? digit = some
      { draft with
        goal := draft.goal + digit * draft.weight
        weight := draft.weight * (36 - threshold draft.bias draft.position)
        position := draft.position + 36 } := by
  unfold feed?
  rw [if_neg (Nat.not_lt.mpr h)]

/-- The digits of a number lead to the goal that is the number farther on, counted
in the weight of its first digit. -/
theorem feedAll_number (draft : Draft) (value : Nat) :
    draft.feedAll? (number draft.bias draft.position value) =
      { draft with goal := draft.goal + value * draft.weight }.insert? := by
  induction value using Nat.strongRecOn generalizing draft with
  | ind value ih =>
      have hpos := threshold_pos draft.bias draft.position
      have hle := threshold_le draft.bias draft.position
      rw [number]
      generalize hlimit : threshold draft.bias draft.position = limit at hpos hle
      split
      case isTrue hlt =>
        rw [feedAll?, digit_digitOf (by omega)]
        show (draft.feed? value).bind (fun next => some next) = _
        unfold feed?
        rw [hlimit, if_pos hlt]
        exact Option.bind_fun_some _
      case isFalse hge =>
        have hmod := Nat.mod_lt (value - limit) (y := 36 - limit) (by omega)
        have hquotient : (value - limit) / (36 - limit) < value :=
          Nat.lt_of_le_of_lt (Nat.div_le_self ..) (by omega)
        have hdigit : threshold draft.bias draft.position ≤
            limit + (value - limit) % (36 - limit) := by omega
        have hfeed := draft.feed_digit hdigit
        rw [feedAll?, digit_digitOf (by omega)]
        show (draft.feed? (limit + (value - limit) % (36 - limit))).bind _ = _
        rw [hfeed, Option.bind_some]
        refine (ih _ hquotient _).trans ?_
        -- what the first digit leaves over counts for more, by its weight
        have hgoal : (limit + (value - limit) % (36 - limit)) * draft.weight +
            (value - limit) / (36 - limit) * (draft.weight * (36 - limit)) =
              value * draft.weight := by
          have hsplit := Nat.mod_add_div' (value - limit) (36 - limit)
          calc _ = (limit + ((value - limit) % (36 - limit) +
                (value - limit) / (36 - limit) * (36 - limit))) * draft.weight := by ring
            _ = value * draft.weight := by rw [hsplit, Nat.add_sub_cancel' (by omega)]
        dsimp only
        rw [hlimit, Nat.add_assoc, hgoal]
        rfl

theorem insert_at {draft : Draft} (htext : draft.text = front ++ back)
    (hcode : draft.code ≤ c.toNat) {goal : Nat}
    (hgoal : goal = (c.toNat - draft.code) * (draft.text.length + 1) + front.length) :
    { draft with goal }.insert? = some
      { text := front ++ c :: back
        code := c.toNat
        start := front.length + 1
        goal := front.length + 1
        bias := biasAfter (goal - draft.start) (draft.text.length + 1) (draft.start == 0) } := by
  have hfront : front.length < draft.text.length + 1 := by
    rw [htext, List.length_append]
    omega
  have hdiv : goal / (draft.text.length + 1) = c.toNat - draft.code := by
    rw [hgoal, Nat.add_comm, Nat.add_mul_div_right _ _ (by omega), Nat.div_eq_of_lt hfront,
      Nat.zero_add]
  have hmod : goal % (draft.text.length + 1) = front.length := by
    rw [hgoal, Nat.add_comm, Nat.add_mul_mod_self_right, Nat.mod_eq_of_lt hfront]
  have hvalid : c.toNat.isValidChar := c.valid
  unfold insert?
  dsimp only
  rw [hdiv, hmod, Nat.add_sub_cancel' hcode, if_pos hvalid, Char.ofNat_toNat, htext,
    List.take_left, List.drop_left]

end Draft

/-! ## The greatest character -/

theorem lt_of_cutGreatest_eq_none (h : cutGreatest? text = none) : ∀ c ∈ text, c.toNat < 0x80 := by
  induction text with
  | nil => exact fun _ hc => nomatch hc
  | cons first rest ih =>
      unfold cutGreatest? at h
      split at h
      · split at h <;> cases h
      case h_2 hrest =>
        split at h
        case isTrue hfirst =>
          intro c hc
          rcases List.mem_cons.mp hc with rfl | hc
          · exact hfirst
          · exact ih hrest c hc
        case isFalse => cases h

/-- What is cut out is beyond ASCII; no character before it is greater, and none behind it
as great. -/
theorem cutGreatest_spec (h : cutGreatest? text = some (front, c, back)) :
    0x80 ≤ c.toNat ∧ (∀ d ∈ front, d.toNat ≤ c.toNat) ∧ ∀ d ∈ back, d.toNat < c.toNat := by
  induction text generalizing front c back with
  | nil => cases h
  | cons first rest ih =>
      unfold cutGreatest? at h
      split at h
      case h_1 inner greatest behind hrest =>
        obtain ⟨hbeyond, hfront, hback⟩ := ih hrest
        split at h
        case isTrue hlt =>
          cases h
          refine ⟨by omega, fun _ hd => (nomatch hd), fun d hd => ?_⟩
          rw [eq_of_cutGreatest hrest, List.mem_append, List.mem_cons] at hd
          rcases hd with hd | rfl | hd
          · exact Nat.lt_of_le_of_lt (hfront d hd) hlt
          · exact hlt
          · exact Nat.lt_trans (hback d hd) hlt
        case isFalse hge =>
          cases h
          refine ⟨hbeyond, fun d hd => ?_, hback⟩
          rcases List.mem_cons.mp hd with rfl | hd
          · exact Nat.le_of_not_lt hge
          · exact hfront d hd
      case h_2 hrest =>
        split at h
        · cases h
        case isFalse hbeyond =>
          cases h
          refine ⟨Nat.le_of_not_lt hbeyond, fun _ hd => (nomatch hd), fun d hd => ?_⟩
          exact Nat.lt_of_lt_of_le (lt_of_cutGreatest_eq_none hrest d hd)
            (Nat.le_of_not_lt hbeyond)

/-! ## What is written -/

theorem write_of_none (h : cutGreatest? text = none) : write text = ([], { text }) := by
  conv_lhs => rw [write]
  split
  · rfl
  case h_2 hsome =>
    rw [h] at hsome
    cases hsome

theorem write_of_some (h : cutGreatest? text = some (front, c, back)) :
    let draft := (write (front ++ back)).2
    let distance := (c.toNat - draft.code) * text.length + front.length - draft.start
    write text = ((write (front ++ back)).1 ++ number draft.bias 36 distance,
      { text
        code := c.toNat
        start := front.length + 1
        goal := front.length + 1
        bias := biasAfter distance text.length (draft.start == 0) }) := by
  intro draft distance
  conv_lhs => rw [write]
  split
  case h_1 hnone =>
    rw [h] at hnone
    cases hnone
  case h_2 hsome =>
    rw [h] at hsome
    cases hsome
    rfl

/-- The draft of a reader at the end of a number. -/
structure Draft.Rests (draft : Draft) (text : List Char) : Prop where
  text : draft.text = text
  goal : draft.goal = draft.start
  weight : draft.weight = 1
  position : draft.position = 36

theorem rests_write (text : List Char) : (write text).2.Rests text := by
  cases h : cutGreatest? text with
  | none =>
      rw [write_of_none h]
      exact ⟨rfl, rfl, rfl, rfl⟩
  | some cut =>
      obtain ⟨front, c, back⟩ := cut
      rw [write_of_some h]
      exact ⟨rfl, rfl, rfl, rfl⟩

/-- The place where a reader goes on is behind the last character that was put in. -/
theorem start_write (text : List Char) :
    (write text).2.start = 0 ∧ (write text).2.code = 0x80 ∨
      ∃ front c back, text = front ++ c :: back ∧ (write text).2.code = c.toNat ∧
        (write text).2.start = front.length + 1 := by
  cases h : cutGreatest? text with
  | none =>
      rw [write_of_none h]
      exact .inl ⟨rfl, rfl⟩
  | some cut =>
      obtain ⟨front, c, back⟩ := cut
      rw [write_of_some h]
      exact .inr ⟨front, c, back, eq_of_cutGreatest h, rfl, rfl⟩

theorem start_le_goal (h : cutGreatest? text = some (front, c, back)) :
    (write (front ++ back)).2.code ≤ c.toNat ∧
      (write (front ++ back)).2.start ≤
        (c.toNat - (write (front ++ back)).2.code) * text.length + front.length := by
  obtain ⟨hbeyond, hfront, hback⟩ := cutGreatest_spec h
  have hlength : text.length = front.length + back.length + 1 := by
    rw [eq_of_cutGreatest h, List.length_append, List.length_cons]
    omega
  rcases start_write (front ++ back) with ⟨hstart, hcode⟩ | ⟨inner, d, behind, heq, hcode, hstart⟩
  · rw [hstart, hcode]
    exact ⟨hbeyond, Nat.zero_le _⟩
  have hmem : d ∈ front ++ back := by
    rw [heq]
    simp
  have hle : d.toNat ≤ c.toNat := by
    rcases List.mem_append.mp hmem with hd | hd
    · exact hfront d hd
    · exact Nat.le_of_lt (hback d hd)
  have hinner : inner.length < front.length + back.length := by
    have hlengths := congrArg List.length heq
    simp only [List.length_append, List.length_cons] at hlengths
    omega
  rw [hcode, hstart]
  refine ⟨hle, ?_⟩
  rcases Nat.lt_or_eq_of_le hle with hlt | heqd
  · -- a whole round goes by
    have hround : 1 * text.length ≤ (c.toNat - d.toNat) * text.length :=
      Nat.mul_le_mul_right _ (by omega)
    omega
  · -- a character as great as the greatest is before it
    have hplace : inner.length < front.length := by
      refine Nat.lt_of_not_le fun hge => ?_
      have hprefix : front <+: inner := by
        refine List.prefix_of_prefix_length_le (List.prefix_append front back) ?_ hge
        exact heq ▸ List.prefix_append inner (d :: behind)
      obtain ⟨between, rfl⟩ := hprefix
      rw [List.append_assoc] at heq
      have hd : d ∈ back := by
        rw [List.append_cancel_left heq]
        simp
      exact absurd heqd (Nat.ne_of_lt (hback d hd))
    omega

/-- Whoever reads what is written comes to the text. -/
theorem feedAll_write (text : List Char) :
    Draft.feedAll? { text := text.filter (·.toNat < 0x80) } (write text).1 =
      some (write text).2 := by
  cases h : cutGreatest? text with
  | none =>
      have hall : text.filter (·.toNat < 0x80) = text :=
        List.filter_eq_self.mpr fun c hc => decide_eq_true (lt_of_cutGreatest_eq_none h c hc)
      rw [write_of_none h, hall]
      rfl
  | some cut =>
      obtain ⟨front, c, back⟩ := cut
      have ih := feedAll_write (front ++ back)
      have hrests := rests_write (front ++ back)
      obtain ⟨hcode, hgoal⟩ := start_le_goal h
      have htext := eq_of_cutGreatest h
      have hfilter : text.filter (·.toNat < 0x80) = (front ++ back).filter (·.toNat < 0x80) := by
        have hc : ¬c.toNat < 0x80 := Nat.not_lt.mpr (cutGreatest_spec h).1
        rw [htext, List.filter_append, List.filter_append, List.filter_cons_of_neg (by simpa using hc)]
      have hlength : text.length = (write (front ++ back)).2.text.length + 1 := by
        rw [hrests.text, htext, List.length_append, List.length_append, List.length_cons]
        omega
      rw [write_of_some h, hfilter, Draft.feedAll_append, ih, Option.bind_some]
      generalize (write (front ++ back)).2 = draft at hrests hcode hgoal hlength
      have hnumber := draft.feedAll_number
        ((c.toNat - draft.code) * text.length + front.length - draft.start)
      rw [hrests.position, hrests.weight, hrests.goal, Nat.mul_one, Nat.add_sub_cancel' hgoal]
        at hnumber
      rw [hnumber]
      refine (Draft.insert_at hrests.text hcode (by rw [hlength])).trans ?_
      rw [← htext, hlength]
termination_by text.length
decreasing_by
  rw [eq_of_cutGreatest h, List.length_append, List.length_append, List.length_cons]
  omega

theorem mem_write (text : List Char) (h : c ∈ (write text).1) : ∃ digit < 36, c = digitOf digit := by
  cases hcut : cutGreatest? text with
  | none =>
      rw [write_of_none hcut] at h
      cases h
  | some cut =>
      obtain ⟨front, greatest, back⟩ := cut
      rw [write_of_some hcut] at h
      rcases List.mem_append.mp h with h | h
      · exact mem_write (front ++ back) h
      · exact mem_number _ _ _ h
termination_by text.length
decreasing_by
  rw [eq_of_cutGreatest hcut, List.length_append, List.length_append, List.length_cons]
  omega

theorem takeWhile_reverse_digits {digits : List Char} (h : '-' ∉ digits) (behind : List Char) :
    (digits.reverse ++ behind).takeWhile (· != '-') =
      digits.reverse ++ behind.takeWhile (· != '-') := by
  refine List.takeWhile_append_of_pos fun c hc => ?_
  rw [bne_iff_ne]
  rintro rfl
  exact h (List.mem_reverse.mp hc)

theorem decode_of_digits {digits : List Char} (h : '-' ∉ digits) :
    decode? digits = (Draft.feedAll? { text := [] } digits).bind Draft.finish? := by
  unfold decode?
  dsimp only
  rw [← List.append_nil digits.reverse, takeWhile_reverse_digits h, List.takeWhile_nil,
    List.append_nil, List.reverse_reverse, Nat.sub_self]
  rfl

theorem decode_of_front {front digits : List Char} (hne : front ≠ []) (h : '-' ∉ digits) :
    decode? (front ++ '-' :: digits) =
      (Draft.feedAll? { text := front } digits).bind Draft.finish? := by
  have htake : (front ++ '-' :: digits).reverse.takeWhile (· != '-') = digits.reverse := by
    rw [List.reverse_append, List.reverse_cons, List.append_assoc, takeWhile_reverse_digits h,
      List.singleton_append, List.takeWhile_cons_of_neg (by decide), List.append_nil]
  have hfront : (front ++ '-' :: digits).take ((front ++ '-' :: digits).length - digits.length) =
      front ++ ['-'] := by
    rw [List.append_cons, List.length_append, Nat.add_sub_cancel, List.take_left]
  have hmark : front ++ ['-'] ≠ ['-'] := fun heq => hne (List.append_left_eq_self.mp heq)
  unfold decode?
  dsimp only
  rw [htake, List.reverse_reverse, hfront, if_neg hmark, List.dropLast_concat]
  rfl

/-- A label is decoded from what it is encoded as. -/
theorem decode_encode (text : List Char) : decode? (encode text) = some text := by
  have hdigits : '-' ∉ (write text).1 := by
    intro hm
    obtain ⟨digit, hdigit, heq⟩ := mem_write text hm
    exact (digitOf_char hdigit).2.2.1 heq.symm
  have hread : (Draft.feedAll? { text := text.filter (·.toNat < 0x80) } (write text).1).bind
      Draft.finish? = some text := by
    rw [feedAll_write, Option.bind_some, Draft.finish?, if_pos (rests_write text).position,
      (rests_write text).text]
  unfold encode
  dsimp only
  split
  case isTrue hempty =>
    rw [decode_of_digits hdigits, ← List.isEmpty_iff.mp hempty, hread]
  case isFalse hne =>
    rw [decode_of_front (by simpa using hne) hdigits, hread]

theorem mem_encode (h : c ∈ encode text) :
    (c ∈ text ∧ c.toNat < 0x80) ∨ c.toNat < 0x80 ∧ c.toLower = c ∧ c ≠ '.' := by
  have hdigit (hc : c ∈ (write text).1) : c.toNat < 0x80 ∧ c.toLower = c ∧ c ≠ '.' := by
    obtain ⟨digit, hdigit, rfl⟩ := mem_write text hc
    exact ⟨(digitOf_char hdigit).1, (digitOf_char hdigit).2.1, (digitOf_char hdigit).2.2.2⟩
  unfold encode at h
  dsimp only at h
  split at h
  · exact .inr (hdigit h)
  · rcases List.mem_append.mp h with h | h
    · obtain ⟨hmem, hascii⟩ := List.mem_filter.mp h
      exact .inl ⟨hmem, of_decide_eq_true hascii⟩
    · rcases List.mem_cons.mp h with rfl | h
      · exact .inr (by decide)
      · exact .inr (hdigit h)

/-! ## How many digits a label takes -/

theorem three_le_length_number {value : Nat} (h : 936 ≤ value) (bias position : Nat) :
    3 ≤ (number bias position value).length := by
  have hquotient {limit : Nat} (hpos : 1 ≤ limit) (hle : limit ≤ 26) :
      26 ≤ (value - limit) / (36 - limit) := by
    rw [Nat.le_div_iff_mul_le (by omega)]
    omega
  have hfirst := hquotient (threshold_pos bias position) (threshold_le bias position)
  have hle := threshold_le bias position
  have hnext := threshold_le bias (position + 36)
  rw [number, if_neg (by omega), number, if_neg (by omega), List.length_cons, List.length_cons]
  have hlast : ∀ position value, 1 ≤ (number bias position value).length := by
    intro position value
    rw [number]
    split <;> simp
  have hthird := hlast (position + 36 + 36)
    (((value - threshold bias position) / (36 - threshold bias position) -
      threshold bias (position + 36)) / (36 - threshold bias (position + 36)))
  omega

end OciBlobs.Url.Label
