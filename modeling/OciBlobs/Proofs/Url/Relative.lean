/-
# `Proofs.Url.Relative` — references that are read from where a URL stands

A web URL that was read is the base of other texts.  A text without a colon in
front of its query has no scheme, so that it is path and query of the base's
server (`join_reference`): behind a slash it is the whole path (`join_rooted`),
and else it stands in place of the last segment (`join_beside`).  The segments of
a settled path are added as they are, and there is no dot to follow.

A text with a scheme of the web and two slashes has an authority of its own.  The
base is not looked at, whatever follows (`join_absolute`).

    tail_of_query    where the query begins
    cutScheme_query  no scheme without a colon
-/
import OciBlobs.Proofs.Url.Web

namespace OciBlobs.Url

variable {base : Url} {scheme written text : List Char} {query : Option (List Char)}
  {segments : List (List Char)}

/-! ## References without a scheme -/

/-- A query that reading leaves as it is. -/
def KeptQuery (query : Option (List Char)) : Prop :=
  ∀ text ∈ query, Kept inSpecialQuerySet text

theorem solid_of_query (h : Kept inSpecialQuerySet text) : Solid text ∧ ∀ c ∈ text, c ≠ '#' := by
  have hchar (c : Char) (hc : c ∈ text) : 0x20 < c.toNat ∧ c ≠ '#' :=
    Host.forall_of_lt (P := fun c => inSpecialQuerySet c = false → 0x20 < c.toNat ∧ c ≠ '#')
      (by decide) (h c hc).2 (h c hc).1
  exact ⟨fun c hc => (hchar c hc).1, fun c hc => (hchar c hc).2⟩

theorem solid_renderQuery (h : KeptQuery query) : Solid (renderQuery query) := by
  cases query with
  | none => nofun
  | some text =>
      have hmark : Solid ['?'] := by decide
      exact hmark.append (solid_of_query (h text rfl)).1

theorem tail_of_query (hw : Clear written) (hq : KeptQuery query) :
    Tail.ofChars (written ++ renderQuery query) = ⟨written, query, none⟩ := by
  have hfragment : ∀ c ∈ written ++ renderQuery query, (c != '#') = true := by
    intro c hc
    rw [bne_iff_ne]
    rcases List.mem_append.mp hc with hc | hc
    · exact (hw c hc).2.2
    · cases query with
      | none => cases hc
      | some text =>
          rcases List.mem_cons.mp hc with rfl | hc
          · decide
          · exact (solid_of_query (hq text rfl)).2 c hc
  have hfront : ∀ c ∈ written, (c != '?') = true := fun c hc => bne_iff_ne.mpr (hw c hc).2.1
  have hmark : ∀ c ∈ (renderQuery query).head?, (c != '?') = false := by
    cases query with
    | none => nofun
    | some text => rintro c ⟨⟩; rfl
  unfold Tail.ofChars
  dsimp only
  rw [List.takeWhile_eq_self_iff.mpr hfragment, List.dropWhile_eq_nil_iff.mpr hfragment,
    takeWhile_front hfront hmark, dropWhile_front hfront hmark]
  cases query with
  | none => rfl
  | some text =>
      simp only [renderQuery, unbroken_of_solid (solid_of_query (hq text rfl)).1]

theorem cutScheme_query (hcolon : ':' ∉ written) :
    cutScheme? (written ++ renderQuery query) = none := by
  have hnext : ∀ rest, (written ++ renderQuery query).dropWhile isSchemeChar ≠ ':' :: rest := by
    intro rest heq
    rw [List.dropWhile_append] at heq
    split at heq
    · cases query with
      | none => cases heq
      | some text => cases heq
    · next hne =>
        have hleft : written.dropWhile isSchemeChar ≠ [] := fun hnil => hne (by rw [hnil]; rfl)
        obtain ⟨c, more, hc⟩ := List.exists_cons_of_ne_nil hleft
        rw [hc, List.cons_append, List.cons.injEq] at heq
        have hm : c ∈ written := (List.dropWhile_suffix _).subset (hc ▸ List.mem_cons_self)
        exact hcolon (heq.1 ▸ hm)
  unfold cutScheme?
  split
  · rfl
  · split
    · split
      · next rest heq => exact absurd heq (hnext rest)
      · rfl
    · rfl

theorem join_reference (h : base.Settled) (hw : Clear written) (hne : written ≠ [])
    (hcolon : ':' ∉ written) (hq : KeptQuery query) :
    base.join (String.ofList (written ++ renderQuery query)) =
      parseRelative base ⟨written, query, none⟩ := by
  obtain ⟨authority, hauthority, -⟩ := h.authority
  have hsolid : Solid (written ++ renderQuery query) := hw.solid.append (solid_renderQuery hq)
  have hmain : Tail.main ⟨written, query, none⟩ = written := unbroken_of_solid hw.solid
  have hflat : base.isFlat = false := by
    unfold isFlat
    rw [hauthority]
  unfold join parseFrom
  dsimp only
  rw [String.toList_ofList, trim_of_solid hsolid, unbroken_of_solid hsolid,
    cutScheme_query hcolon, tail_of_query hw hq]
  unfold parseWithoutScheme
  dsimp only
  rw [hmain, hflat, if_neg fun hnone => hne hnone.1, if_neg (by decide), if_neg]
  rw [h.web]
  decide

/-! ## Paths and queries -/

theorem withTail_query (hweb : base.family = .web) (hq : KeptQuery query) (path : Path) :
    withTail { base with path := path } ⟨written, query, none⟩ =
      { base with path := path, query := query, fragment := none } := by
  have hfamily : ({ base with path := path } : Url).family = .web := hweb
  have hquery : query.map (encodeQuery .web) = query := by
    cases query with
    | none => rfl
    | some text => exact congrArg some (encode_eq_self (hq text rfl))
  simp only [withTail, hfamily, hquery, Option.map_none]

theorem extend_settled {first : List Char} (hs : ∀ segment ∈ first :: segments, Path.Settled segment)
    (stack : List (List Char)) :
    Path.extend .web stack (first ++ (Path.rooted segments).render) =
      stack ++ first :: segments := by
  have hcut : Path.cut .web (first ++ (Path.rooted segments).render) = first :: segments :=
    Path.cut_render fun segment hm => (hs segment hm).unslashed
  rw [Path.extend, hcut, Path.Walk.along_settled hs]
  rfl

variable {first : List Char}

theorem join_rooted (h : base.Settled) (hne : first ≠ [])
    (hs : ∀ segment ∈ first :: segments, Path.Settled segment)
    (hcolon : ':' ∉ (Path.rooted (first :: segments)).render) (hq : KeptQuery query) :
    base.join (String.ofList ((Path.rooted (first :: segments)).render ++ renderQuery query)) =
      .ok { base with path := .rooted (first :: segments), query := query, fragment := none } := by
  have hclear := clear_render hs
  have hrender : (Path.rooted (first :: segments)).render =
      '/' :: (first ++ (Path.rooted segments).render) := rfl
  have hmain : Tail.main ⟨(Path.rooted (first :: segments)).render, query, none⟩ =
      '/' :: (first ++ (Path.rooted segments).render) := unbroken_of_solid hclear.solid
  obtain ⟨c, rest, rfl⟩ := List.exists_cons_of_ne_nil hne
  have hslash : (c == '/' || c == '\\') = false :=
    isSlash_web c ▸ (hs (c :: rest) List.mem_cons_self).unslashed c List.mem_cons_self
  rw [join_reference h hclear (by simp [hrender]) hcolon hq]
  unfold parseRelative
  dsimp only
  rw [hmain, h.web]
  dsimp only
  rw [if_pos (by decide), if_neg (by simp [hslash]), extend_settled hs,
    withTail_query h.web hq]
  rfl

/-- Without a slash in front a reference stands in place of the last segment. -/
theorem join_beside (h : base.Settled) (hne : first ≠ [])
    (hs : ∀ segment ∈ first :: segments, Path.Settled segment)
    (hcolon : ':' ∉ first ++ (Path.rooted segments).render) (hq : KeptQuery query) :
    base.join (String.ofList (first ++ (Path.rooted segments).render ++ renderQuery query)) =
      .ok { base with
        path := .rooted (base.segments.dropLast ++ first :: segments)
        query := query
        fragment := none } := by
  have hclear : Clear (first ++ (Path.rooted segments).render) :=
    (clear_of_kept (hs first List.mem_cons_self).kept).append
      (clear_render fun segment hm => hs segment (List.mem_cons_of_mem _ hm))
  have hmain : Tail.main ⟨first ++ (Path.rooted segments).render, query, none⟩ =
      first ++ (Path.rooted segments).render := unbroken_of_solid hclear.solid
  obtain ⟨c, rest, rfl⟩ := List.exists_cons_of_ne_nil hne
  have hslash : (c == '/' || c == '\\') = false :=
    isSlash_web c ▸ (hs (c :: rest) List.mem_cons_self).unslashed c List.mem_cons_self
  rw [join_reference h hclear (by simp) hcolon hq]
  unfold parseRelative
  dsimp only
  rw [hmain, h.web, List.cons_append]
  dsimp only
  rw [if_neg (by simp [hslash]), ← List.cons_append, extend_settled hs, withTail_query h.web hq]

/-! ## References with an authority -/

/-- Two slashes behind a scheme of the web begin an authority: the base is left
alone. -/
theorem parseAbsolute_slashes (hweb : familyOf scheme = .web) {tail : Tail} {main : List Char}
    (hmain : tail.main = '/' :: '/' :: main) (base : Url) :
    parseAbsolute (some base) scheme tail = parseAbsolute none scheme tail := by
  unfold parseAbsolute
  dsimp only
  rw [hweb]
  dsimp only
  have hmany : ¬(tail.main.takeWhile fun c => c == '/' || c == '\\').length < 2 := by
    simp [hmain]
  rw [if_neg fun hfew => hmany hfew.2]

/-- A reference with a scheme of the web and two slashes is a URL of its own. -/
theorem join_absolute (hweb : familyOf scheme = .web) (base : Url) (rest : List Char) :
    base.join (String.ofList (scheme ++ ':' :: '/' :: '/' :: rest)) =
      parse (String.ofList (scheme ++ ':' :: '/' :: '/' :: rest)) := by
  have hmark : Solid [':'] := by decide
  have hslashes : Solid ['/', '/'] := by decide
  have hscheme : Solid (scheme ++ [':']) := (clear_web hweb).solid.append hmark
  have hfront : Solid (scheme ++ ':' :: '/' :: '/' :: []) := by simpa using hscheme.append hslashes
  obtain ⟨kept, hkept⟩ : ∃ kept, trim (scheme ++ ':' :: '/' :: '/' :: rest) =
      (scheme ++ [':']) ++ '/' :: '/' :: kept :=
    ⟨_, by simpa using trim_append hfront (by simp) rest⟩
  have hunbroken : Path.unbroken ((scheme ++ [':']) ++ '/' :: '/' :: kept) =
      scheme ++ ':' :: '/' :: '/' :: Path.unbroken kept := by
    simpa using unbroken_append hfront kept
  obtain ⟨main, hmain⟩ : ∃ main,
      (Tail.ofChars ('/' :: '/' :: kept)).main = '/' :: '/' :: main := ⟨_, rfl⟩
  have hlength : (scheme ++ ':' :: '/' :: '/' :: Path.unbroken kept).length -
      ('/' :: '/' :: Path.unbroken kept).length = (scheme ++ [':']).length := by
    simp only [List.length_append, List.length_cons, List.length_nil]
    omega
  unfold join parse parseFrom
  dsimp only
  rw [String.toList_ofList, hkept, hunbroken, cutScheme_web hweb]
  dsimp only
  rw [hlength, skip_of_solid hscheme]
  exact parseAbsolute_slashes hweb hmain base

end OciBlobs.Url
