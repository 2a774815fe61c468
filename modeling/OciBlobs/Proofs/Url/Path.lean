/-
# `Proofs.Url.Path` — walking along a path, and along it once more

A walk along the path of a web URL leaves segments that are settled: they are
encoded, hold no slash, and are not dots in any spelling (`settled_along`).
Walking along settled segments adds each of them as it is (`along_settled`), so
a path that was read is read as itself again (`afterAuthority_render`).

Dots lead back, but not below the start of a walk if its segments have led on as
often before (`root_prefix_of_descends`).

    Walk.visit        one segment that is not the last
    along_append      a walk in two parts
    Descends          more segments lead on than back, throughout
    cut_append        a text in two parts
    cut_render        the segments of a path from its text
-/
import OciBlobs.Proofs.Url.Percent
import OciBlobs.Url.Path

namespace OciBlobs.Url.Path

/-! ## Dots -/

theorem escape_of_singleDot {front back : List Char} {x y : Char}
    (h : isSingleDot (front ++ '%' :: x :: y :: back) = true) :
    x.toLower = '2' ∧ y.toLower = 'e' := by
  simp only [isSingleDot, Bool.or_eq_true, beq_iff_eq, List.map_append, List.map_cons] at h
  rcases front with _ | ⟨_, _ | ⟨_, _ | ⟨_, front⟩⟩⟩ <;> simp_all

theorem escape_of_doubleDot {front back : List Char} {x y : Char}
    (h : isDoubleDot (front ++ '%' :: x :: y :: back) = true) :
    x.toLower = '2' ∧ y.toLower = 'e' := by
  simp only [isDoubleDot, List.contains_eq_mem, decide_eq_true_eq, List.mem_cons,
    List.not_mem_nil, or_false, List.map_append, List.map_cons] at h
  -- the spellings have six characters at most
  rcases front with _ | ⟨_, _ | ⟨_, _ | ⟨_, _ | ⟨_, _ | ⟨_, _ | ⟨_, front⟩⟩⟩⟩⟩⟩
  · rcases h with h | h | h | h <;> simp_all
  all_goals simp_all

theorem upperHexDigit_toLower : ∀ n < 16,
    ((Bytes.upperHexDigit n).toLower = '2' → n = 2) ∧
      ((Bytes.upperHexDigit n).toLower = 'e' → n = 14) := by
  decide

theorem toNat_of_escape {b : UInt8}
    (h : (Bytes.upperHexDigit (b.toNat / 16)).toLower = '2' ∧
      (Bytes.upperHexDigit (b.toNat % 16)).toLower = 'e') : b.toNat = '.'.toNat := by
  have hhigh := (upperHexDigit_toLower (b.toNat / 16) (by have := b.toNat_lt; omega)).1 h.1
  have hlow := (upperHexDigit_toLower (b.toNat % 16) (Nat.mod_lt _ (by decide))).2 h.2
  have hstop : '.'.toNat = 46 := rfl
  omega

theorem isSingleDot_encode {segment : List Char} (h : isSingleDot segment = false) :
    isSingleDot (encode inPathSet segment) = false := by
  rcases encode_cases inPathSet segment with hsame | ⟨front, b, back, he, hb⟩
  · rwa [hsame]
  · cases hdot : isSingleDot (encode inPathSet segment) with
    | false => rfl
    | true =>
        rw [he, escape, List.append_assoc] at hdot
        exact absurd (toNat_of_escape (escape_of_singleDot hdot)) (hb '.' rfl (by decide))

theorem isDoubleDot_encode {segment : List Char} (h : isDoubleDot segment = false) :
    isDoubleDot (encode inPathSet segment) = false := by
  rcases encode_cases inPathSet segment with hsame | ⟨front, b, back, he, hb⟩
  · rwa [hsame]
  · cases hdots : isDoubleDot (encode inPathSet segment) with
    | false => rfl
    | true =>
        rw [he, escape, List.append_assoc] at hdots
        exact absurd (toNat_of_escape (escape_of_doubleDot hdots)) (hb '.' rfl (by decide))

/-! ## Breaks -/

theorem inPathSet_of_isBreak {c : Char} (h : isBreak c = true) : inPathSet c = true := by
  simp only [isBreak, Bool.or_eq_true, beq_iff_eq] at h
  rcases h with (rfl | rfl) | rfl <;> decide

theorem unbroken_of_kept {text : List Char} (h : Kept inPathSet text) : unbroken text = text := by
  refine List.filter_eq_self.mpr fun c hc => ?_
  cases hb : isBreak c with
  | false => rfl
  | true =>
      have hset := inPathSet_of_isBreak hb
      rw [(h c hc).1] at hset
      cases hset

/-! ## Segments -/

/-- No character of a text parts segments of a web path. -/
def Unslashed (text : List Char) : Prop :=
  ∀ c ∈ text, Family.web.isSlash c = false

instance {text : List Char} : Decidable (Unslashed text) :=
  List.decidableBAll _ text

/-- A segment of a web path as reading leaves it. -/
structure Settled (segment : List Char) : Prop where
  kept : Kept inPathSet segment
  unslashed : Unslashed segment
  notDot : isSingleDot segment = false
  notDots : isDoubleDot segment = false

variable {segment : List Char} {segments : List (List Char)} {walk : Walk}

theorem settled_nil : Settled [] :=
  ⟨nofun, nofun, rfl, rfl⟩

theorem unslashed_encode {text : List Char} (h : Unslashed text) :
    Unslashed (encode inPathSet text) := by
  intro c hc
  rcases mem_encode hc with hm | hm
  · have hnone : Unslashed escapeChars := by decide
    exact hnone c hm
  · exact h c hm

theorem unslashed_unbroken {text : List Char} (h : Unslashed text) : Unslashed (unbroken text) :=
  fun c hc => h c (List.mem_filter.mp hc).1

/-- What is not dots is settled once it is encoded. -/
theorem settled_encode (hs : Unslashed segment) (hd : isSingleDot (unbroken segment) = false)
    (hdd : isDoubleDot (unbroken segment) = false) :
    Settled (encode inPathSet (unbroken segment)) :=
  ⟨kept_encode sparesEscapes_inPathSet _, unslashed_encode (unslashed_unbroken hs),
    isSingleDot_encode hd, isDoubleDot_encode hdd⟩

/-! ## Walks -/

namespace Walk

variable (family : Family)

/-- Goes along one segment that is not the last. -/
def visit (walk : Walk) (segment : List Char) : Walk :=
  if isDoubleDot (unbroken segment) then walk.back
  else if isSingleDot (unbroken segment) then walk
  else walk.push family segment

theorem along_cons (walk : Walk) (next last : List Char) (rest : List (List Char)) :
    along family walk (next :: last :: rest) =
      along family (visit family walk next) (last :: rest) := by
  rw [along, visit]
  · split
    · rfl
    · split <;> rfl
  · nofun

theorem along_append (front : List (List Char)) (walk : Walk) (last : List Char)
    (rest : List (List Char)) :
    along family walk (front ++ last :: rest) =
      along family (front.foldl (visit family) walk) (last :: rest) := by
  induction front generalizing walk with
  | nil => rfl
  | cons next front ih =>
      rw [List.foldl_cons, ← ih]
      cases front with
      | nil => exact along_cons family walk next last rest
      | cons second front => exact along_cons family walk next second (front ++ last :: rest)

@[simp] theorem add_stack (walk : Walk) (segments : List (List Char)) :
    (walk.add segments).stack = walk.stack ++ segments :=
  rfl

theorem add_add (walk : Walk) (front back : List (List Char)) :
    (walk.add front).add back = walk.add (front ++ back) := by
  simp [add, List.append_assoc]

theorem push_web (walk : Walk) (segment : List Char) :
    walk.push .web segment = walk.add [encode inPathSet (unbroken segment)] := by
  simp [push]

theorem back_stack_subset (walk : Walk) : walk.back.stack ⊆ walk.stack := by
  unfold back
  split
  · split
    · exact List.Subset.refl _
    · exact List.dropLast_subset _
  · exact List.Subset.refl _

theorem push_settled (h : Settled segment) : walk.push .web segment = walk.add [segment] := by
  rw [push_web, unbroken_of_kept h.kept, encode_eq_self h.kept]

theorem visit_settled (h : Settled segment) : walk.visit .web segment = walk.add [segment] := by
  rw [visit, unbroken_of_kept h.kept, h.notDot, h.notDots]
  exact push_settled h

theorem foldl_visit_settled (h : ∀ segment ∈ segments, Settled segment) :
    segments.foldl (visit .web) walk = walk.add segments := by
  induction segments generalizing walk with
  | nil => simp [add]
  | cons segment rest ih =>
      rw [List.foldl_cons, visit_settled (h segment List.mem_cons_self),
        ih fun other hm => h other (List.mem_cons_of_mem _ hm), add_add]
      rfl

theorem along_last (walk : Walk) (h : Settled segment) :
    along .web walk [segment] = walk.add [segment] := by
  rw [along, unbroken_of_kept h.kept, h.notDot, h.notDots]
  exact push_settled h

theorem along_settled (h : ∀ segment ∈ segments, Settled segment) :
    along .web walk segments = walk.add segments := by
  rcases List.eq_nil_or_concat segments with rfl | ⟨front, last, rfl⟩
  · simp [along, add]
  · rw [List.concat_eq_append] at h ⊢
    have hlast : Settled last := h last (by simp)
    have hfront : ∀ segment ∈ front, Settled segment := fun other hm =>
      h other (List.mem_append_left _ hm)
    rw [along_append, foldl_visit_settled hfront, along_last _ hlast, add_add]

/-- All segments of the stack are settled. -/
def IsSettled (walk : Walk) : Prop :=
  ∀ segment ∈ walk.stack, Settled segment

theorem IsSettled.back (h : walk.IsSettled) : walk.back.IsSettled :=
  fun segment hm => h segment (back_stack_subset walk hm)

theorem IsSettled.add (h : walk.IsSettled) (hs : Settled segment) :
    (walk.add [segment]).IsSettled := by
  intro other hm
  rw [add_stack, List.mem_append, List.mem_singleton] at hm
  rcases hm with hm | rfl
  · exact h other hm
  · exact hs

theorem IsSettled.visit (h : walk.IsSettled) (hs : Unslashed segment) :
    (walk.visit .web segment).IsSettled := by
  unfold Walk.visit
  split
  · exact h.back
  case isFalse hdd =>
    split
    · exact h
    case isFalse hd =>
      rw [push_web]
      exact h.add (settled_encode hs (by simpa using hd) (by simpa using hdd))

theorem IsSettled.along_last (h : walk.IsSettled) (hs : Unslashed segment) :
    (along .web walk [segment]).IsSettled := by
  rw [along]
  split
  · exact h.back.add settled_nil
  case isFalse hdd =>
    split
    · exact h.add settled_nil
    case isFalse hd =>
      rw [push_web]
      exact h.add (settled_encode hs (by simpa using hd) (by simpa using hdd))

theorem IsSettled.foldl_visit (h : walk.IsSettled)
    (hs : ∀ segment ∈ segments, Unslashed segment) :
    (segments.foldl (Walk.visit .web) walk).IsSettled := by
  induction segments generalizing walk with
  | nil => exact h
  | cons segment rest ih =>
      exact ih (h.visit (hs segment List.mem_cons_self)) fun other hm =>
        hs other (List.mem_cons_of_mem _ hm)

theorem IsSettled.along (h : walk.IsSettled) (hs : ∀ segment ∈ segments, Unslashed segment) :
    (along .web walk segments).IsSettled := by
  rcases List.eq_nil_or_concat segments with rfl | ⟨front, last, rfl⟩
  · exact h
  · rw [List.concat_eq_append] at hs ⊢
    rw [along_append]
    refine (h.foldl_visit fun other hm => ?_).along_last ?_
    · exact hs other (List.mem_append_left _ hm)
    · exact hs last (by simp)

theorem along_stack_ne_nil (walk : Walk) (h : segments ≠ []) :
    (along .web walk segments).stack ≠ [] := by
  rcases List.eq_nil_or_concat segments with rfl | ⟨front, last, rfl⟩
  · exact absurd rfl h
  · rw [List.concat_eq_append, along_append, along, push_web]
    split
    · simp
    · split <;> simp

/-! ### Walks that stay below their start -/

/-- How many segments lead back. -/
def ups (segments : List (List Char)) : Nat :=
  segments.countP fun segment => isDoubleDot (unbroken segment)

/-- How many segments lead on. -/
def downs (segments : List (List Char)) : Nat :=
  segments.countP fun segment =>
    !isDoubleDot (unbroken segment) && !isSingleDot (unbroken segment)

/-- At no point have more segments led back than on. -/
def Descends (segments : List (List Char)) : Prop :=
  ∀ n, ups (segments.take n) ≤ downs (segments.take n)

theorem descends_iff : Descends segments ↔
    ∀ n < segments.length + 1, ups (segments.take n) ≤ downs (segments.take n) := by
  constructor
  · exact fun h n _ => h n
  · intro h n
    rcases Nat.lt_or_ge n (segments.length + 1) with hn | hn
    · exact h n hn
    · have hall := h segments.length (Nat.lt_succ_self _)
      rw [List.take_length] at hall
      rw [List.take_of_length_le (by omega)]
      exact hall

instance : DecidablePred Descends :=
  fun _ => decidable_of_iff _ descends_iff.symm

theorem back_stack (walk : Walk) :
    walk.back.stack = walk.stack ∨ walk.back.stack = walk.stack.dropLast := by
  unfold back
  split
  · split
    · exact .inl rfl
    · exact .inr rfl
  · exact .inl rfl

/-- With `extra` segments above its root, a walk can be led back that often. -/
theorem root_prefix_foldl {root : List (List Char)} :
    ∀ (segments extra : List (List Char)) (walk : Walk), walk.stack = root ++ extra →
      (∀ n, ups (segments.take n) ≤ downs (segments.take n) + extra.length) →
      root <+: (segments.foldl (visit .web) walk).stack
  | [], extra, walk, hs, _ => ⟨extra, hs.symm⟩
  | segment :: rest, extra, walk, hs, h => by
      have hrest (n : Nat) := h (n + 1)
      simp only [List.take_succ_cons, ups, downs, List.countP_cons] at hrest
      rw [List.foldl_cons, visit]
      split
      case isTrue hdd =>
        simp only [hdd, Bool.not_true, Bool.false_and, if_true, Bool.false_eq_true,
          if_false, Nat.add_zero] at hrest
        have hroom : 1 ≤ extra.length := by simpa using hrest 0
        rcases back_stack walk with hback | hback
        · exact root_prefix_foldl rest extra _ (hback.trans hs) fun n => by
            have := hrest n
            simp only [ups, downs]
            omega
        · have hne : extra ≠ [] := List.ne_nil_of_length_pos hroom
          refine root_prefix_foldl rest extra.dropLast _ ?_ fun n => ?_
          · rw [hback, hs, List.dropLast_append_of_ne_nil hne]
          · have := hrest n
            simp only [ups, downs, List.length_dropLast]
            omega
      case isFalse hdd =>
        split
        case isTrue hd =>
          simp only [hdd, hd, Bool.not_true, Bool.and_false, Bool.false_eq_true, if_false,
            Nat.add_zero] at hrest
          exact root_prefix_foldl rest extra walk hs hrest
        case isFalse hd =>
          simp only [hdd, hd, Bool.not_false, Bool.and_self, Bool.false_eq_true, if_false,
            if_true, Nat.add_zero] at hrest
          rw [push_web]
          refine root_prefix_foldl rest (extra ++ [encode inPathSet (unbroken segment)]) _ ?_
            fun n => ?_
          · rw [add_stack, hs, List.append_assoc]
          · have := hrest n
            simp only [ups, downs, List.length_append, List.length_singleton]
            omega

theorem root_prefix_of_descends {root : List (List Char)} (h : Descends segments) :
    root <+: (segments.foldl (visit .web) ⟨root, false⟩).stack :=
  root_prefix_foldl segments [] ⟨root, false⟩ (List.append_nil root).symm h

end Walk

/-! ## Texts -/

theorem cut_append {family : Family} {c : Char} (hc : family.isSlash c = true)
    (front back : List Char) :
    cut family (front ++ c :: back) = cut family front ++ cut family back := by
  unfold cut
  rw [List.map_append, List.map_cons, if_pos hc]
  exact Text.cutAt_append_cons _ _

theorem isSlash_of_unslashed (h : Unslashed segment) {c : Char} (hc : c ∈ segment)
    (family : Family) : family.isSlash c = false := by
  have hweb := h c hc
  cases family with
  | web => exact hweb
  | file => exact hweb
  | other =>
      simp only [Family.isSlash, Bool.or_eq_false_iff] at hweb ⊢
      exact ⟨hweb.1, Bool.and_false _⟩

theorem cut_unslashed (h : Unslashed segment) (family : Family) :
    cut family segment = [segment] := by
  have hmap : (segment.map fun c => if family.isSlash c then '/' else c) = segment := by
    refine (List.map_congr_left fun c hc => ?_).trans (List.map_id segment)
    rw [isSlash_of_unslashed h hc]
    rfl
  have hslash : '/' ∉ segment := fun hm => nomatch h '/' hm
  rw [cut, hmap, Text.cutAt_of_not_mem hslash]

theorem unslashed_of_cut {text : List Char} (h : segment ∈ cut .web text) :
    Unslashed segment := by
  intro c hc
  obtain ⟨hne, hm⟩ := Text.mem_of_cutAt h hc
  obtain ⟨d, -, rfl⟩ := List.mem_map.mp hm
  cases hd : Family.web.isSlash d with
  | true => simp [hd] at hne
  | false => simp [hd]

theorem cut_ne_nil (family : Family) (text : List Char) : cut family text ≠ [] :=
  Text.cutAt_ne_nil _ _

theorem cut_render {first : List Char} (h : ∀ segment ∈ first :: segments, Unslashed segment) :
    cut .web (first ++ segments.flatMap ('/' :: ·)) = first :: segments := by
  induction segments generalizing first with
  | nil =>
      rw [List.flatMap_nil, List.append_nil]
      exact cut_unslashed (h first List.mem_cons_self) .web
  | cons second rest ih =>
      rw [List.flatMap_cons, List.cons_append, cut_append rfl,
        cut_unslashed (h first List.mem_cons_self),
        ih fun other hm => h other (List.mem_cons_of_mem _ hm)]
      rfl

/-- Behind a rooted path and a slash a text goes on with segments of its own. -/
theorem cut_behind (h : ∀ segment ∈ segments, Unslashed segment) (text : List Char) :
    ∃ behind, (rooted segments).render ++ '/' :: text = '/' :: behind ∧
      cut .web behind = segments ++ cut .web text := by
  induction segments with
  | nil => exact ⟨text, rfl, rfl⟩
  | cons first rest ih =>
      obtain ⟨behind, hrender, hcut⟩ := ih fun other hm => h other (List.mem_cons_of_mem _ hm)
      refine ⟨first ++ '/' :: behind, ?_, ?_⟩
      · rw [render] at hrender
        rw [render, List.flatMap_cons, List.cons_append, List.cons_append, List.append_assoc,
          hrender]
      · rw [cut_append rfl, cut_unslashed (h first List.mem_cons_self), hcut]
        rfl

/-- One rooted path begins with another, up to a slash, if its segments do. -/
theorem render_prefix_iff {root : List (List Char)} (hr : ∀ segment ∈ root, Unslashed segment)
    (hs : ∀ segment ∈ segments, Unslashed segment) :
    (rooted root).render ++ ['/'] <+: (rooted segments).render ↔
      ∃ next rest, segments = root ++ next :: rest := by
  constructor
  · rintro ⟨text, htext⟩
    rw [List.append_assoc, List.singleton_append] at htext
    obtain ⟨behind, hrender, hcut⟩ := cut_behind hr text
    obtain ⟨next, rest, hnext⟩ := List.exists_cons_of_ne_nil (cut_ne_nil .web text)
    refine ⟨next, rest, ?_⟩
    cases segments with
    | nil => simp [render] at htext
    | cons first others =>
        rw [hrender, render, List.flatMap_cons, List.cons_append, List.cons.injEq] at htext
        rw [← hnext, ← hcut, htext.2, cut_render hs]
  · rintro ⟨next, rest, rfl⟩
    exact ⟨next ++ (rooted rest).render, by simp [render]⟩

theorem afterAuthority_slash (text : List Char) :
    afterAuthority .web ('/' :: text) = .rooted (Walk.along .web {} (cut .web text)).stack :=
  rfl

/-- A path that was read consists of settled segments, and there is one. -/
theorem afterAuthority_settled (text : List Char) :
    ∃ segments, afterAuthority .web text = .rooted segments ∧ segments ≠ [] ∧
      ∀ segment ∈ segments, Settled segment := by
  have hempty : Walk.IsSettled {} := nofun
  have hextend (text : List Char) : extend .web [] text ≠ [] ∧
      ∀ segment ∈ extend .web [] text, Settled segment :=
    ⟨Walk.along_stack_ne_nil _ (cut_ne_nil _ _), hempty.along fun _ => unslashed_of_cut⟩
  unfold afterAuthority
  split
  · exact ⟨_, rfl, hextend []⟩
  case h_2 c rest _ =>
    split
    · exact ⟨_, rfl, hextend rest⟩
    · exact ⟨_, rfl, hextend (c :: rest)⟩

/-- A path of settled segments is read as itself. -/
theorem afterAuthority_render (hne : segments ≠ [])
    (h : ∀ segment ∈ segments, Settled segment) :
    afterAuthority .web (Path.rooted segments).render = .rooted segments := by
  cases segments with
  | nil => exact absurd rfl hne
  | cons first rest =>
      rw [render, List.flatMap_cons, List.cons_append, afterAuthority_slash,
        cut_render fun segment hm => (h segment hm).unslashed, Walk.along_settled h]
      rfl

end OciBlobs.Url.Path
