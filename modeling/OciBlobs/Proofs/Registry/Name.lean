/-
# `Proofs.Registry.Name` — ordinary names are addressed verbatim

A repository of letters, digits, `-`, `_`, `.`, `~` and `/` without a segment
that is one dot or two is a path that reading leaves as it is: each of its
segments is settled (`Ordinary.settled`), and so the URLs of its blobs and
uploads show it letter for letter behind the base path
(`ordinary_names_verbatim`).

What stands behind the last slash of a blob's URL is the digest, for a digest
has no slash; so the URL tells where the repository ends, however many segments
it has (`parted_at_last`).

    cut_of_ordinary    the segments of an ordinary name
    flatMap_cutAt      pieces put together with their separators
    parted_at_last     what stands before and behind a last separator
    chars_endpoint     the text of a URL below the base
-/
import Mathlib.Data.List.DropRight
import OciBlobs.Proofs.Digest
import OciBlobs.Proofs.Registry.Address

namespace OciBlobs

/-! ## Pieces put together again -/

namespace Text

variable {α : Type} [BEq α] [LawfulBEq α] {sep : α}

theorem flatMap_cutAt (text : List α) : (cutAt sep text).flatMap (sep :: ·) = sep :: text := by
  induction text with
  | nil => rfl
  | cons a rest ih =>
      by_cases ha : a = sep
      · subst ha
        rw [cutAt_cons_self, List.flatMap_cons, ih]
        rfl
      · cases hr : cutAt sep rest with
        | nil => exact absurd hr (cutAt_ne_nil sep rest)
        | cons piece pieces =>
            rw [hr, List.flatMap_cons] at ih
            rw [cutAt_cons_of_ne ha hr, List.flatMap_cons]
            show sep :: a :: (piece ++ pieces.flatMap (sep :: ·)) = sep :: a :: rest
            rw [List.cons_append, List.cons.injEq] at ih
            rw [ih.2]

theorem parted_at_last {front front' piece piece' : List α} (h : sep ∉ piece) (h' : sep ∉ piece')
    (heq : front ++ sep :: piece = front' ++ sep :: piece') : front = front' ∧ piece = piece' := by
  have hcut := congrArg (cutAt sep) heq
  rw [cutAt_append_cons, cutAt_append_cons, cutAt_of_not_mem h, cutAt_of_not_mem h'] at hcut
  have hpiece : piece = piece' := (List.cons.inj (List.append_inj' hcut rfl).2).1
  subst hpiece
  exact ⟨List.append_cancel_right heq, rfl⟩

end Text

namespace Registry

open Url

/-! ## Ordinary names -/

/-- The characters of ordinary names. -/
def isNameChar (c : Char) : Bool :=
  c.isAlphanum || c == '-' || c == '_' || c == '.' || c == '~' || c == '/'

/-- A repository that is nothing but its own path. -/
structure Ordinary (repository : String) : Prop where
  chars : ∀ c ∈ repository.toList, isNameChar c = true
  notDots : ∀ segment ∈ Text.cutAt '/' repository.toList, segment ≠ ['.'] ∧ segment ≠ ['.', '.']

instance : DecidablePred Ordinary := fun repository =>
  decidable_of_iff (repository.toList.all isNameChar = true ∧
      (Text.cutAt '/' repository.toList).all
        (fun segment => segment != ['.'] && segment != ['.', '.']) = true)
    ⟨fun h => ⟨List.all_eq_true.mp h.1, fun segment hm => by
        simpa using List.all_eq_true.mp h.2 segment hm⟩,
      fun h => ⟨List.all_eq_true.mpr h.chars, List.all_eq_true.mpr fun segment hm => by
        simpa using h.notDots segment hm⟩⟩

theorem toNat_lt_of_isNameChar {c : Char} (h : isNameChar c = true) : c.toNat < 0x7F := by
  simp only [isNameChar, Bool.or_eq_true, beq_iff_eq] at h
  rcases h with ((((h | rfl) | rfl) | rfl) | rfl) | rfl
  · exact Host.toNat_lt_of_isAlphanum h
  all_goals decide

/-- Characters of ordinary names are not encoded, are no backslashes, and are no
part of an escape; only a full stop is like one. -/
theorem name_char {c : Char} (h : isNameChar c = true) :
    inPathSet c = false ∧ (c ≠ '/' → Family.web.isSlash c = false) ∧ c.toLower ≠ '%' ∧
      (c.toLower = '.' → c = '.') :=
  Host.forall_of_lt (P := fun c => isNameChar c = true → inPathSet c = false ∧
      (c ≠ '/' → Family.web.isSlash c = false) ∧ c.toLower ≠ '%' ∧ (c.toLower = '.' → c = '.'))
    (by decide) (toNat_lt_of_isNameChar h) h

theorem dots_of_name {segment : List Char} (h : ∀ c ∈ segment, isNameChar c = true)
    (hone : segment ≠ ['.']) (htwo : segment ≠ ['.', '.']) :
    Path.isSingleDot segment = false ∧ Path.isDoubleDot segment = false := by
  have hescape : '%' ∉ segment.map Char.toLower := by
    intro hm
    obtain ⟨c, hc, hlower⟩ := List.mem_map.mp hm
    exact (name_char (h c hc)).2.2.1 hlower
  constructor
  · rw [Path.isSingleDot, Bool.or_eq_false_iff, beq_eq_false_iff_ne, beq_eq_false_iff_ne]
    refine ⟨hone, fun heq => hescape ?_⟩
    rw [heq]
    decide
  · rw [Path.isDoubleDot, List.contains_eq_mem, decide_eq_false_iff_not]
    intro hm
    rcases List.mem_cons.mp hm with heq | hm
    · obtain ⟨c, rest, rfl, hc, hrest⟩ := List.map_eq_cons_iff.mp heq
      obtain ⟨d, last, rfl, hd, hlast⟩ := List.map_eq_cons_iff.mp hrest
      have hcstop := (name_char (h c (by simp))).2.2.2 hc
      have hdstop := (name_char (h d (by simp))).2.2.2 hd
      exact htwo (by rw [hcstop, hdstop, List.map_eq_nil_iff.mp hlast])
    · have hall : ∀ spelling ∈ [['.', '%', '2', 'e'], ['%', '2', 'e', '.'],
          ['%', '2', 'e', '%', '2', 'e']], '%' ∈ spelling := by decide
      exact hescape (hall _ hm)

theorem cut_of_ordinary {repository : String} (h : Ordinary repository) :
    Path.cut .web repository.toList = Text.cutAt '/' repository.toList := by
  have hmap : (repository.toList.map fun c => if Family.web.isSlash c then '/' else c) =
      repository.toList := by
    refine (List.map_congr_left fun c hc => ?_).trans (List.map_id _)
    by_cases hslash : c = '/'
    · subst hslash
      rfl
    · rw [(name_char (h.chars c hc)).2.1 hslash]
      rfl
  rw [Path.cut, hmap]

theorem Ordinary.settled {repository : String} (h : Ordinary repository) :
    ∀ segment ∈ Text.cutAt '/' repository.toList, Path.Settled segment := by
  intro segment hm
  have hchar {c : Char} (hc : c ∈ segment) : c ≠ '/' ∧ isNameChar c = true :=
    (Text.mem_of_cutAt hm hc).imp_right (h.chars c)
  have hdots := dots_of_name (fun c hc => (hchar hc).2) (h.notDots segment hm).1
    (h.notDots segment hm).2
  refine ⟨fun c hc => ⟨(name_char (hchar hc).2).1, ?_⟩, fun c hc => ?_, hdots.1, hdots.2⟩
  · exact Nat.lt_of_lt_of_le (toNat_lt_of_isNameChar (hchar hc).2) (by decide)
  · exact (name_char (hchar hc).2).2.1 (hchar hc).1

namespace Address

variable {text : String} {address : Address} {repository : String}

/-! ## Paths -/

theorem landing_of_ordinary (hr : Ordinary repository) :
    (address.landing repository).stack =
      address.root ++ Text.cutAt '/' repository.toList := by
  rw [landing, cut_of_ordinary hr, Path.Walk.foldl_visit_settled hr.settled]
  rfl

theorem render_landing (h : address.base.Settled) (hr : Ordinary repository)
    (behind : List (List Char)) :
    (Path.rooted ((address.landing repository).stack ++ behind)).render =
      address.pathPrefix ++ "/v2/".toList ++ repository.toList ++
        (Path.rooted behind).render := by
  have hroot := render_root h
  rw [Path.render] at hroot
  rw [landing_of_ordinary hr, Path.render, List.flatMap_append, List.flatMap_append, ← hroot,
    Text.flatMap_cutAt]
  simp [Path.render]

theorem blob_path_of_ordinary (h : address.base.Settled) (hr : Ordinary repository)
    (digest : Digest) :
    (address.blob repository digest).path.render =
      address.pathPrefix ++ "/v2/".toList ++ repository.toList ++ "/blobs/".toList ++
        digest.chars := by
  rw [blob_path h, render_landing h hr]
  simp [Path.render]

theorem uploads_path_of_ordinary (h : address.base.Settled) (hr : Ordinary repository) :
    (address.uploads repository).path.render =
      address.pathPrefix ++ "/v2/".toList ++ repository.toList ++ "/blobs/uploads/".toList := by
  rw [uploads_path h, render_landing h hr]
  simp [Path.render]

/-- The base path is its front and slashes. -/
theorem pathPrefix_split (address : Address) :
    (∃ count, address.base.path.render = address.pathPrefix ++ List.replicate count '/') ∧
      address.pathPrefix.getLast? ≠ some '/' := by
  have hfront : address.pathPrefix = address.base.path.render.rdropWhile (· == '/') := rfl
  constructor
  · have hslashes := List.eq_replicate_of_mem (a := '/')
      (l := address.base.path.render.rtakeWhile (· == '/'))
      fun c hc => by simpa using List.mem_rtakeWhile_imp hc
    refine ⟨(address.base.path.render.rtakeWhile (· == '/')).length, ?_⟩
    rw [← hslashes, hfront, List.rdropWhile_append_rtakeWhile]
  · intro hlast
    have hne : address.pathPrefix ≠ [] := by
      rintro hnil
      rw [hnil] at hlast
      cases hlast
    have hslash := List.rdropWhile_last_not (· == '/') address.base.path.render (hfront ▸ hne)
    rw [List.getLast?_eq_getLast_of_ne_nil hne] at hlast
    exact hslash (by simpa [hfront] using hlast)

/-! ## Texts -/

theorem chars_endpoint (address : Address) (path : List Char) :
    (address.endpoint path).chars =
      address.base.origin ++ (address.endpoint path).path.render := by
  obtain ⟨authority, hauthority⟩ : ∃ authority, address.base.authority = some authority := by
    cases ha : address.base.authority with
    | none => exact absurd address.hasHost (by simp [host?, ha])
    | some authority => exact ⟨authority, rfl⟩
  have horigin : (address.endpoint path).origin = address.base.origin := by
    unfold endpoint withPath origin
    simp [hauthority]
  have hquery : renderQuery (address.endpoint path).query = [] := rfl
  have hfragment : renderFragment (address.endpoint path).fragment = [] := rfl
  rw [Url.chars, horigin, hquery, hfragment, List.append_nil, List.append_nil]

theorem path_of_text {path path' : List Char}
    (h : (address.endpoint path).text = (address.endpoint path').text) :
    (address.endpoint path).path.render = (address.endpoint path').path.render := by
  have hchars := String.ofList_injective h
  rw [chars_endpoint, chars_endpoint] at hchars
  exact List.append_cancel_left hchars

theorem slash_not_mem_digest (digest : Digest) : '/' ∉ digest.chars := by
  intro h
  exact absurd ((settled_digest digest).unslashed '/' h) (by decide)

variable {first second : String}

theorem blob_injective (h : address.base.Settled) (hf : Ordinary first) (hs : Ordinary second)
    {one other : Digest} (heq : (address.blob first one).text = (address.blob second other).text) :
    first = second ∧ one = other := by
  have hshape (repository : String) (digest : Digest) :
      address.pathPrefix ++ "/v2/".toList ++ repository.toList ++ "/blobs/".toList ++
          digest.chars =
        (address.pathPrefix ++ "/v2/".toList ++ repository.toList ++ "/blobs".toList) ++
          '/' :: digest.chars := by
    simp
  have hpath := path_of_text heq
  rw [← blob, ← blob, blob_path_of_ordinary h hf, blob_path_of_ordinary h hs, hshape,
    hshape] at hpath
  obtain ⟨hfront, hdigest⟩ :=
    Text.parted_at_last (slash_not_mem_digest one) (slash_not_mem_digest other) hpath
  have hnames := List.append_cancel_left (List.append_cancel_right hfront)
  exact ⟨String.toList_injective hnames, Digest.chars_injective hdigest⟩

theorem uploads_injective (h : address.base.Settled) (hf : Ordinary first) (hs : Ordinary second)
    (heq : (address.uploads first).text = (address.uploads second).text) : first = second := by
  have hpath := path_of_text heq
  rw [← uploads, ← uploads, uploads_path_of_ordinary h hf, uploads_path_of_ordinary h hs] at hpath
  exact String.toList_injective (List.append_cancel_left (List.append_cancel_right hpath))

/-- The URL of a blob does not end with a slash, and that for uploads does. -/
theorem blob_ne_uploads (h : address.base.Settled) (hf : Ordinary first) (hs : Ordinary second)
    (digest : Digest) : (address.blob first digest).text ≠ (address.uploads second).text := by
  intro heq
  have hblob : (address.blob first digest).path.render =
      (address.pathPrefix ++ "/v2/".toList ++ first.toList ++ "/blobs".toList) ++
        '/' :: digest.chars := by
    rw [blob_path_of_ordinary h hf]
    simp
  have huploads : (address.uploads second).path.render =
      (address.pathPrefix ++ "/v2/".toList ++ second.toList ++ "/blobs/uploads".toList) ++
        '/' :: [] := by
    rw [uploads_path_of_ordinary h hs]
    simp
  have hpath := path_of_text heq
  rw [← blob, ← uploads, hblob, huploads] at hpath
  have hempty := (Text.parted_at_last (slash_not_mem_digest digest) List.not_mem_nil hpath).2
  simp [Digest.chars] at hempty

/-- Ordinary names in one registry lead to the URLs that they spell, and different
ones to different URLs. -/
theorem ordinary_names_verbatim (h : parse text = .ok address)
    (hs : address.base.scheme = "http".toList ∨ address.base.scheme = "https".toList) :
    (∃ count, address.base.path.render = address.pathPrefix ++ List.replicate count '/') ∧
    address.pathPrefix.getLast? ≠ some '/' ∧
    (∀ repository, Ordinary repository →
      (∀ digest, (address.blob repository digest).path.render =
        address.pathPrefix ++ "/v2/".toList ++ repository.toList ++ "/blobs/".toList ++
          digest.chars) ∧
      (address.uploads repository).path.render =
        address.pathPrefix ++ "/v2/".toList ++ repository.toList ++ "/blobs/uploads/".toList) ∧
    ∀ first second, Ordinary first → Ordinary second →
      (∀ one other, (address.blob first one).text = (address.blob second other).text →
        first = second ∧ one = other) ∧
      ((address.uploads first).text = (address.uploads second).text → first = second) ∧
      ∀ digest, (address.blob first digest).text ≠ (address.uploads second).text := by
  have hbase := base_settled h hs
  obtain ⟨hsplit, hlast⟩ := pathPrefix_split address
  refine ⟨hsplit, hlast, fun repository hr => ?_, fun first second hf hsec => ?_⟩
  · exact ⟨blob_path_of_ordinary hbase hr, uploads_path_of_ordinary hbase hr⟩
  · exact ⟨fun _ _ => blob_injective hbase hf hsec, uploads_injective hbase hf hsec,
      blob_ne_uploads hbase hf hsec⟩

/-- Below a base with an empty segment, a query and a fragment: a name with empty
segments of its own. -/
theorem ordinary_names_verbatim_empty_segments : ∃ (address : Address) (digest : Digest),
    parse "http://h/a//b//?q#f" = .ok address ∧ digest.chars = "sha256:abc".toList ∧
      Ordinary "x//.y/~" ∧
      (address.blob "x//.y/~" digest).path.render = "/a//b/v2/x//.y/~/blobs/sha256:abc".toList ∧
      (address.uploads "x//.y/~").path.render = "/a//b/v2/x//.y/~/blobs/uploads/".toList ∧
      (address.blob "x//.y/~" digest).text ≠ (address.uploads "x//.y/~").text := by
  let base : Url :=
    { scheme := "http".toList
      authority := some { host := some (.domain ['h']) }
      path := .rooted [['a'], [], ['b'], [], []]
      query := some ['q']
      fragment := some ['f'] }
  let digest : Digest :=
    ⟨"sha256".toList, "abc".toList, by decide, by decide, by decide, by decide⟩
  have hparse : parse "http://h/a//b//?q#f" = .ok ⟨base, rfl⟩ :=
    Except.eq_ok_of_toOption (by decide +kernel)
  have hordinary : Ordinary "x//.y/~" := by decide
  obtain ⟨-, -, hpaths, hdistinct⟩ := ordinary_names_verbatim hparse (.inl rfl)
  obtain ⟨hblob, huploads⟩ := hpaths _ hordinary
  exact ⟨⟨base, rfl⟩, digest, hparse, rfl, hordinary, hblob digest, huploads,
    (hdistinct _ _ hordinary hordinary).2.2 digest⟩

end Address

end Registry

end OciBlobs
