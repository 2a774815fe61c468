/-
# `Proofs.Registry.Address` — where a repository can lead

A repository is any text.  It can be no more than path: slashes of either kind
part its segments, dots are followed, and all else is encoded, so that the URLs
of a repository, as texts, are URLs of the registry's own host, or of none if that
host is one that is not read again (`no_repository_redirects`).

Within the path it can lead anywhere.  The path of a URL is that of a walk that
begins at the registry's root, goes along the repository (`landing`) and on from
there (`endpoint_path`); the root stays in front of it as long as the repository
does not lead back behind it (`root_kept_iff`).
-/
import OciBlobs.Proofs.Url.Host.Han
import OciBlobs.Proofs.Url.Web
import OciBlobs.Registry.Address

namespace OciBlobs.Registry.Address

open Url

variable {text : String} {address : Address} {repository : String}

/-! ## The base -/

theorem parse_eq_ok (h : parse text = .ok address) :
    ∃ written, Url.parse written = .ok address.base := by
  unfold parse at h
  split at h
  · cases h
  case h_2 base hbase =>
    split at h
    · cases h
      exact ⟨_, hbase⟩
    · cases h

theorem family_of_scheme (hs : address.base.scheme = "http".toList ∨
    address.base.scheme = "https".toList) : address.base.family = .web := by
  unfold family
  rcases hs with hs | hs <;> (rw [hs]; rfl)

theorem base_settled (h : parse text = .ok address) (hs : address.base.scheme = "http".toList ∨
    address.base.scheme = "https".toList) : address.base.Settled := by
  obtain ⟨written, hwritten⟩ := parse_eq_ok h
  exact settled_of_parse hwritten (family_of_scheme hs)

/-! ## URLs below the base -/

theorem path_endpoint (h : address.base.Settled) (path : List Char) :
    (address.endpoint path).path = .afterAuthority .web (address.pathPrefix ++ path) := by
  have hweb := h.web
  unfold endpoint withPath family at *
  simp [hweb, Family.isSpecial]

theorem endpoint_settled (h : address.base.Settled) (path : List Char) :
    (address.endpoint path).Settled :=
  ⟨h.web, h.authority, path_endpoint h path ▸ Path.afterAuthority_settled _⟩

/-- A URL below the base, as a text, is itself, if the host of the base fits. -/
theorem parse_endpoint (h : address.base.Settled) (path : List Char) :
    Url.parse (address.endpoint path).text =
      if address.base.hostFits then .ok (address.endpoint path) else .error .invalidDomain :=
  (endpoint_settled h path).parse_text rfl rfl

/-- Whatever the repository, the texts of its URLs are URLs of the registry's
scheme, names, host and port, without query and fragment, and with the path that
was built.  If the host of the registry is too long to be read again, they are no
URLs. -/
theorem no_repository_redirects (h : parse text = .ok address)
    (hs : address.base.scheme = "http".toList ∨ address.base.scheme = "https".toList)
    (repository : String) (digest : Digest) :
    ∀ url ∈ [address.blob repository digest, address.uploads repository],
      if address.base.hostFits then
        ∃ again, Url.parse url.text = .ok again ∧ SameServer again address.base ∧
          again.query = none ∧ again.fragment = none ∧ again.path = url.path
      else Url.parse url.text = .error .invalidDomain := by
  have hendpoint (path : List Char) :
      if address.base.hostFits then
        ∃ again, Url.parse (address.endpoint path).text = .ok again ∧
          SameServer again address.base ∧ again.query = none ∧ again.fragment = none ∧
            again.path = (address.endpoint path).path
      else Url.parse (address.endpoint path).text = .error .invalidDomain := by
    have hparse := parse_endpoint (base_settled h hs) path
    split
    case isTrue hfits =>
      rw [if_pos hfits] at hparse
      exact ⟨_, hparse, ⟨rfl, rfl, rfl, rfl, rfl⟩, rfl, rfl, rfl⟩
    case isFalse hfits =>
      rw [if_neg hfits] at hparse
      exact hparse
  intro url hm
  simp only [List.mem_cons, List.not_mem_nil, or_false] at hm
  rcases hm with rfl | rfl
  · exact hendpoint _
  · exact hendpoint _

/-- A repository with the marks of names, a query and a fragment, at a host beyond
ASCII. -/
theorem no_repository_redirects_marks : ∃ (address : Address) (digest : Digest),
    parse "http://u:p@bücher.example:81/x" = .ok address ∧
      address.base.host? = some (.domain "xn--bcher-kva.example".toList) ∧
      digest.chars = "sha256:abc".toList ∧
      ∀ url ∈ [address.blob "//@e\\..?q#f" digest, address.uploads "//@e\\..?q#f"],
        ∃ again, Url.parse url.text = .ok again ∧ SameServer again address.base ∧
          again.query = none ∧ again.fragment = none ∧ again.path = url.path := by
  let base : Url :=
    { scheme := "http".toList
      authority := some
        { username := ['u']
          password := ['p']
          host := some (.domain "xn--bcher-kva.example".toList)
          port := some 81 }
      path := .rooted [['x']] }
  let digest : Digest :=
    ⟨"sha256".toList, "abc".toList, by decide, by decide, by decide, by decide⟩
  have hread : (parse "http://u:p@bücher.example:81/x").toOption = some ⟨base, rfl⟩ := by
    decide +kernel
  have hparse : parse "http://u:p@bücher.example:81/x" = .ok ⟨base, rfl⟩ :=
    Except.eq_ok_of_toOption hread
  have hfits : base.hostFits = true := by decide
  refine ⟨⟨base, rfl⟩, digest, hparse, rfl, rfl, fun url hm => ?_⟩
  have hredirects := no_repository_redirects hparse (.inl rfl) _ digest url hm
  rwa [if_pos hfits] at hredirects

theorem parse_of_han {name : List Char} (h : ∀ c ∈ name, Composed.isHan c.toNat = true)
    (hne : name ≠ []) (hlength : name.length ≤ Label.characterLimit) :
    ∃ address : Address, parse (String.ofList ("http://".toList ++ name)) = .ok address ∧
      address.base =
        { scheme := "http".toList
          authority := some
            { host := some (.domain (['x', 'n', '-', '-'] ++ (Label.write name).1)) }
          path := .rooted [[]] } := by
  have hweb : familyOf "http".toList = .web := rfl
  have hmark {mark : Char} (hm : mark ∈ name) : 0x4E00 ≤ mark.toNat := (toNat_of_han (h mark hm)).1
  have hclear : Clear name := by
    intro c hc
    refine ⟨by have := hmark hc; omega, ?_, ?_⟩ <;>
      · rintro rfl
        exact absurd (hmark hc) (by decide)
  have hbare : Host.Bare name := by
    intro c hc
    refine ⟨?_, ?_, ?_⟩ <;>
      · rintro rfl
        exact absurd (hmark hc) (by decide)
  have hfront : ∀ c ∈ name, Family.web.isSlash c = false ∧ c ≠ '@' := by
    intro c hc
    rw [isSlash_web, Bool.or_eq_false_iff, beq_eq_false_iff_ne, beq_eq_false_iff_ne]
    refine ⟨⟨?_, ?_⟩, ?_⟩ <;>
      · rintro rfl
        exact absurd (hmark hc) (by decide)
  have hslashes := parse_slashes hweb hclear fun c hc =>
    (hfront c (List.mem_of_mem_head? hc)).1
  have hbehind (tail : Tail) : parseBehindSlashes "http".toList tail ((name ++ []) ++ []) = _ :=
    parseBehindSlashes_nameless hweb hbare hne (by nofun) (by simpa using hfront) (by nofun) tail
  rw [List.append_nil, List.append_nil, Host.parse_of_han h hne hlength] at hbehind
  have hnames : namesScheme (String.ofList ("http://".toList ++ name)).toList = true := by
    rw [String.toList_ofList]
    rfl
  have hurl : Url.parse (String.ofList ("http://".toList ++ name)) = _ :=
    hslashes.trans (hbehind _)
  refine ⟨⟨_, rfl⟩, ?_, rfl⟩
  unfold parse
  rw [if_pos hnames, hurl]
  rfl

/-- If a host of Han takes more digits than are read, the texts of the URLs below it are
no URLs. -/
theorem refused_of_han {name : List Char} (h : ∀ c ∈ name, Composed.isHan c.toNat = true)
    (hne : name ≠ []) (hlength : name.length ≤ Label.characterLimit)
    (hfits : (Host.domain (['x', 'n', '-', '-'] ++ (Label.write name).1)).fits = false)
    (repository : String) (digest : Digest) :
    ∃ address : Address, parse (String.ofList ("http://".toList ++ name)) = .ok address ∧
      address.base.scheme = "http".toList ∧
      ∀ url ∈ [address.blob repository digest, address.uploads repository],
        Url.parse url.text = .error .invalidDomain := by
  obtain ⟨address, hparse, hbase⟩ := parse_of_han h hne hlength
  have hs : address.base.scheme = "http".toList := by rw [hbase]
  have hhost : address.base.host? =
      some (.domain (['x', 'n', '-', '-'] ++ (Label.write name).1)) := by
    rw [hbase]
    rfl
  have hnone : address.base.hostFits = false := by rw [hostFits, hhost, Option.all_some, hfits]
  have hendpoint (path : List Char) :
      Url.parse (address.endpoint path).text = .error .invalidDomain := by
    rw [parse_endpoint (base_settled hparse (.inl hs)), hnone, if_neg Bool.false_ne_true]
  refine ⟨address, hparse, hs, fun url hm => ?_⟩
  simp only [List.mem_cons, List.not_mem_nil, or_false] at hm
  rcases hm with rfl | rfl
  · exact hendpoint _
  · exact hendpoint _

/-- A registry at a host of 800 characters, each as far from the next one. -/
theorem long_host_refused : ∃ (address : Address) (digest : Digest),
    parse (String.ofList ("http://".toList ++ Label.ladder 800)) = .ok address ∧
      address.base.scheme = "http".toList ∧ digest.chars = "sha256:abc".toList ∧
      ∀ url ∈ [address.blob "a" digest, address.uploads "a"],
        Url.parse url.text = .error .invalidDomain := by
  let digest : Digest :=
    ⟨"sha256".toList, "abc".toList, by decide, by decide, by decide, by decide⟩
  have hlength : (Label.ladder 800).length = 800 := Label.length_ladder 800
  have hne : Label.ladder 800 ≠ [] := List.ne_nil_of_length_pos (by omega)
  have hlimit : (Label.ladder 800).length ≤ Label.characterLimit := hlength.trans_le (by decide)
  obtain ⟨address, hparse, hs, hrefused⟩ := refused_of_han
    (fun c hc => Label.han_of_ladder (by omega) hc) hne hlimit not_fits_ladder "a" digest
  exact ⟨address, digest, hparse, hs, rfl, hrefused⟩

/-! ## Where a path leads -/

/-- The segments of the base path, without empty ones at its end. -/
def front (address : Address) : List (List Char) :=
  (address.base.segments.reverse.dropWhile List.isEmpty).reverse

/-- The segments in front of every repository. -/
def root (address : Address) : List (List Char) :=
  address.front ++ [['v', '2']]

/-- Where the segments of a repository lead. -/
def landing (address : Address) (repository : String) : Path.Walk :=
  (Path.cut .web repository.toList).foldl (Path.Walk.visit .web) ⟨address.root, false⟩

/-- Slashes at the end of a rooted path are its last segments, as far as they are
empty. -/
theorem trimEnd_render {segments : List (List Char)}
    (h : ∀ segment ∈ segments, Path.Unslashed segment) :
    ((Path.rooted segments).render.reverse.dropWhile (· == '/')).reverse =
      (Path.rooted (segments.reverse.dropWhile List.isEmpty).reverse).render := by
  induction segments using List.reverseRecOn with
  | nil => rfl
  | append_singleton front last ih =>
      have hfront := ih fun segment hm => h segment (List.mem_append_left _ hm)
      simp only [Path.render] at hfront ⊢
      rcases List.eq_nil_or_concat last with rfl | ⟨inner, c, rfl⟩
      · simpa using hfront
      · have hc : (c == '/') = false := by
          have hslash := h (inner.concat c) (by simp) c (by simp)
          simp [Family.isSlash] at hslash
          simpa using hslash.1
        simp [hc]

theorem front_subset : address.front ⊆ address.base.segments := by
  intro segment hm
  have hdrop := (List.dropWhile_suffix List.isEmpty).subset (List.mem_reverse.mp hm)
  exact List.mem_reverse.mp hdrop

theorem settled_segments (h : address.base.Settled) :
    address.base.path = .rooted address.base.segments ∧
      ∀ segment ∈ address.base.segments, Path.Settled segment := by
  obtain ⟨segments, hpath, -, hs⟩ := h.path
  have hsegments : address.base.segments = segments := by rw [Url.segments, hpath]
  rw [hsegments]
  exact ⟨hpath, hs⟩

theorem pathPrefix_eq (h : address.base.Settled) :
    address.pathPrefix = (Path.rooted address.front).render := by
  obtain ⟨hpath, hs⟩ := settled_segments h
  rw [pathPrefix, hpath, trimEnd_render fun segment hm => (hs segment hm).unslashed, front]

theorem settled_root (h : address.base.Settled) :
    ∀ segment ∈ address.root, Path.Settled segment := by
  intro segment hm
  rcases List.mem_append.mp hm with hm | hm
  · exact (settled_segments h).2 segment (front_subset hm)
  · rw [List.mem_singleton] at hm
    subst hm
    exact ⟨by decide, by decide, rfl, rfl⟩

theorem render_root (h : address.base.Settled) :
    address.pathPrefix ++ "/v2".toList = (Path.rooted address.root).render := by
  rw [pathPrefix_eq h, root, Path.render, Path.render, List.flatMap_append]
  rfl

theorem endpoint_path (h : address.base.Settled) (repository : String)
    {behind : List (List Char)} (hne : behind ≠ [])
    (hb : ∀ segment ∈ behind, Path.Settled segment) :
    (address.endpoint ("/v2/".toList ++ repository.toList ++ (Path.rooted behind).render)).path =
      .rooted ((address.landing repository).stack ++ behind) := by
  obtain ⟨first, rest, rfl⟩ := List.exists_cons_of_ne_nil hne
  have hroot := settled_root h
  have htext : address.pathPrefix ++
      ("/v2/".toList ++ repository.toList ++ (Path.rooted (first :: rest)).render) =
        (Path.rooted address.root).render ++
          '/' :: (repository.toList ++ (Path.rooted (first :: rest)).render) := by
    simp [← render_root h]
  obtain ⟨text, htext', hcut⟩ := Path.cut_behind (fun segment hm => (hroot segment hm).unslashed)
    (repository.toList ++ (Path.rooted (first :: rest)).render)
  have hsegments : Path.cut .web (repository.toList ++ (Path.rooted (first :: rest)).render) =
      Path.cut .web repository.toList ++ first :: rest := by
    rw [Path.render, List.flatMap_cons, List.cons_append, Path.cut_append rfl,
      Path.cut_render fun segment hm => (hb segment hm).unslashed]
  have hstart : address.root.foldl (Path.Walk.visit .web) {} = ⟨address.root, false⟩ :=
    Path.Walk.foldl_visit_settled hroot
  rw [path_endpoint h, htext, htext', Path.afterAuthority_slash, hcut, hsegments,
    ← List.append_assoc, Path.Walk.along_append, List.foldl_append, hstart,
    Path.Walk.along_settled hb]
  rfl

/-! ## The paths of both URLs -/

theorem mem_digest {digest : Digest} {c : Char} (h : c ∈ digest.chars) :
    c.isAlphanum = true ∨ c ∈ ['+', '.', '_', '-', '=', ':'] := by
  rcases List.mem_append.mp h with h | h
  · have hc := List.all_eq_true.mp digest.algorithm_valid c h
    simp only [Digest.isAlgorithmChar, Bool.or_eq_true, beq_iff_eq] at hc
    rcases hc with ((((hc | hc) | rfl) | rfl) | rfl) | rfl
    · exact .inl (Host.isAlphanum_of_isLower hc)
    · exact .inl (Host.isAlphanum_of_isDigit hc)
    all_goals exact .inr (by decide)
  · rcases List.mem_cons.mp h with rfl | h
    · exact .inr (by decide)
    · have hc := List.all_eq_true.mp digest.encoded_valid c h
      simp only [Digest.isEncodedChar, Bool.or_eq_true, beq_iff_eq] at hc
      rcases hc with ((hc | rfl) | rfl) | rfl
      · exact .inl hc
      all_goals exact .inr (by decide)

theorem digest_char {c : Char} (h : c.isAlphanum = true ∨ c ∈ ['+', '.', '_', '-', '=', ':']) :
    c.toNat < 0x7F ∧ inPathSet c = false ∧ Family.web.isSlash c = false := by
  have hlt : c.toNat < 0x7F := by
    rcases h with h | h
    · exact Host.toNat_lt_of_isAlphanum h
    · simp only [List.mem_cons, List.not_mem_nil, or_false] at h
      rcases h with rfl | rfl | rfl | rfl | rfl | rfl <;> decide
  exact ⟨hlt, Host.forall_of_lt (P := fun c =>
      c.isAlphanum = true ∨ c ∈ ['+', '.', '_', '-', '=', ':'] →
        inPathSet c = false ∧ Family.web.isSlash c = false)
    (by decide) hlt h⟩

theorem dots_of_colon {segment : List Char} (h : ':' ∈ segment) :
    Path.isSingleDot segment = false ∧ Path.isDoubleDot segment = false := by
  have hmap : ':' ∈ segment.map Char.toLower := List.mem_map.mpr ⟨':', h, rfl⟩
  constructor
  · rw [Path.isSingleDot, Bool.or_eq_false_iff, beq_eq_false_iff_ne, beq_eq_false_iff_ne]
    constructor
    · rintro rfl
      exact absurd h (by decide)
    · intro heq
      exact absurd (heq ▸ hmap) (by decide)
  · rw [Path.isDoubleDot, List.contains_eq_mem, decide_eq_false_iff_not]
    intro hm
    have hnone : ∀ spelling ∈ [['.', '.'], ['.', '%', '2', 'e'], ['%', '2', 'e', '.'],
        ['%', '2', 'e', '%', '2', 'e']], ':' ∉ spelling := by decide
    exact hnone _ hm hmap

theorem settled_digest (digest : Digest) : Path.Settled digest.chars where
  kept c hc := by
    have hchar := digest_char (mem_digest hc)
    exact ⟨hchar.2.1, by omega⟩
  unslashed c hc := (digest_char (mem_digest hc)).2.2
  notDot := (dots_of_colon (by simp [Digest.chars])).1
  notDots := (dots_of_colon (by simp [Digest.chars])).2

theorem settled_blobs : Path.Settled "blobs".toList :=
  ⟨by decide, by decide, rfl, rfl⟩

theorem settled_uploads : Path.Settled "uploads".toList :=
  ⟨by decide, by decide, rfl, rfl⟩

theorem settled_blob (digest : Digest) :
    ∀ segment ∈ ["blobs".toList, digest.chars], Path.Settled segment := by
  intro segment hm
  simp only [List.mem_cons, List.not_mem_nil, or_false] at hm
  rcases hm with rfl | rfl
  · exact settled_blobs
  · exact settled_digest digest

theorem settled_upload :
    ∀ segment ∈ ["blobs".toList, "uploads".toList, []], Path.Settled segment := by
  intro segment hm
  simp only [List.mem_cons, List.not_mem_nil, or_false] at hm
  rcases hm with rfl | rfl | rfl
  · exact settled_blobs
  · exact settled_uploads
  · exact Path.settled_nil

theorem blob_path (h : address.base.Settled) (repository : String) (digest : Digest) :
    (address.blob repository digest).path =
      .rooted ((address.landing repository).stack ++ ["blobs".toList, digest.chars]) := by
  rw [← endpoint_path h repository (by simp) (settled_blob digest)]
  simp [blob, Path.render]

theorem uploads_path (h : address.base.Settled) (repository : String) :
    (address.uploads repository).path =
      .rooted ((address.landing repository).stack ++ ["blobs".toList, "uploads".toList, []]) := by
  rw [← endpoint_path h repository (by simp) settled_upload]
  simp [uploads, Path.render]

/-! ## The root in front -/

theorem settled_landing (h : address.base.Settled) (repository : String) :
    (address.landing repository).IsSettled :=
  Path.Walk.IsSettled.foldl_visit (settled_root h) fun _ => Path.unslashed_of_cut

/-- What stands behind a repository does not put the root back in front. -/
theorem root_prefix_iff (h : address.base.Settled) {behind : List (List Char)} (hne : behind ≠ [])
    (hb : ∀ segment ∈ behind, Path.Settled segment) (hv : "v2".toList ∉ behind)
    {path : Path} (hpath : path = .rooted ((address.landing repository).stack ++ behind)) :
    address.pathPrefix ++ "/v2/".toList <+: path.render ↔
      address.root <+: (address.landing repository).stack := by
  have hroot : address.pathPrefix ++ "/v2/".toList =
      (Path.rooted address.root).render ++ ['/'] := by
    rw [← render_root h, List.append_assoc]
    rfl
  rw [hroot, hpath, Path.render_prefix_iff]
  · constructor
    · rintro ⟨next, rest, hsplit⟩
      rcases List.append_eq_append_iff.mp hsplit with ⟨left, hleft, hrest⟩ | ⟨left, hleft, -⟩
      · -- the root would end within what stands behind
        rcases List.eq_nil_or_concat left with rfl | ⟨inner, last, rfl⟩
        · exact ⟨[], by rw [hleft, List.append_nil, List.append_nil]⟩
        · rw [root, List.concat_eq_append, ← List.append_assoc] at hleft
          have hlast : "v2".toList = last := by
            simpa using (List.append_inj' hleft rfl).2
          exact absurd (by rw [hrest, hlast]; simp) hv
      · exact ⟨left, hleft.symm⟩
    · rintro ⟨left, hleft⟩
      obtain ⟨next, rest, hnext⟩ := List.exists_cons_of_ne_nil
        (show left ++ behind ≠ [] by simp [hne])
      exact ⟨next, rest, by rw [← hleft, List.append_assoc, hnext]⟩
  · exact fun segment hm => (settled_root h segment hm).unslashed
  · intro segment hm
    rcases List.mem_append.mp hm with hm | hm
    · exact (settled_landing h repository segment hm).unslashed
    · exact (hb segment hm).unslashed

/-- The paths of both URLs of a repository begin with the base path and `/v2/`
just if the repository leads to below the root; and it does if its segments have
at no point led back more often than on. -/
theorem root_kept_iff (h : parse text = .ok address)
    (hs : address.base.scheme = "http".toList ∨ address.base.scheme = "https".toList)
    (repository : String) (digest : Digest) :
    (∀ url ∈ [address.blob repository digest, address.uploads repository],
      (address.pathPrefix ++ "/v2/".toList <+: url.path.render ↔
        address.root <+: (address.landing repository).stack)) ∧
    (Path.Walk.Descends (Path.cut .web repository.toList) →
      address.root <+: (address.landing repository).stack) := by
  have hsettled := base_settled h hs
  refine ⟨fun url hm => ?_, Path.Walk.root_prefix_of_descends⟩
  simp only [List.mem_cons, List.not_mem_nil, or_false] at hm
  rcases hm with rfl | rfl
  · have hv : "v2".toList ∉ ["blobs".toList, digest.chars] := by
      intro hv
      simp only [List.mem_cons, List.not_mem_nil, or_false] at hv
      rcases hv with hv | hv
      · exact absurd hv (by decide)
      · have hcolon : ':' ∈ "v2".toList := by
          rw [hv]
          simp [Digest.chars]
        exact absurd hcolon (by decide)
    exact root_prefix_iff hsettled (by simp) (settled_blob digest) hv (blob_path hsettled _ _)
  · exact root_prefix_iff hsettled (by simp) settled_upload (by decide) (uploads_path hsettled _)

/-- A repository that goes back within itself. -/
theorem root_kept_within : ∃ (address : Address) (digest : Digest),
    parse "http://h/prefix/" = .ok address ∧ digest.chars = "sha256:abc".toList ∧
      address.pathPrefix = "/prefix".toList ∧
      Path.Walk.Descends (Path.cut .web "library/a/../alpine".toList) ∧
      ∀ url ∈ [address.blob "library/a/../alpine" digest, address.uploads "library/a/../alpine"],
        address.pathPrefix ++ "/v2/".toList <+: url.path.render := by
  let base : Url :=
    { scheme := "http".toList
      authority := some { host := some (.domain ['h']) }
      path := .rooted ["prefix".toList, []] }
  let digest : Digest :=
    ⟨"sha256".toList, "abc".toList, by decide, by decide, by decide, by decide⟩
  have hparse : parse "http://h/prefix/" = .ok ⟨base, rfl⟩ :=
    Except.eq_ok_of_toOption (by decide +kernel)
  have hdescends : Path.Walk.Descends (Path.cut .web "library/a/../alpine".toList) := by decide
  have hkept := root_kept_iff hparse (.inl rfl) "library/a/../alpine" digest
  exact ⟨⟨base, rfl⟩, digest, hparse, rfl, by decide +kernel, hdescends,
    fun url hm => (hkept.1 url hm).mpr (hkept.2 hdescends)⟩

/-- A repository that leads back behind the root: its paths have neither the base
path nor `/v2/`. -/
theorem root_lost : ∃ (address : Address) (digest : Digest),
    parse "http://h/prefix" = .ok address ∧ digest.chars = "sha256:abc".toList ∧
      address.pathPrefix = "/prefix".toList ∧
      (address.blob "../../x" digest).path.render = "/x/blobs/sha256:abc".toList ∧
      (address.uploads "../../x").path.render = "/x/blobs/uploads/".toList ∧
      ∀ url ∈ [address.blob "../../x" digest, address.uploads "../../x"],
        ¬ address.pathPrefix ++ "/v2/".toList <+: url.path.render := by
  let base : Url :=
    { scheme := "http".toList
      authority := some { host := some (.domain ['h']) }
      path := .rooted ["prefix".toList] }
  let digest : Digest :=
    ⟨"sha256".toList, "abc".toList, by decide, by decide, by decide, by decide⟩
  let address : Address := ⟨base, rfl⟩
  have hparse : parse "http://h/prefix" = .ok address :=
    Except.eq_ok_of_toOption (by decide +kernel)
  have hfront : address.pathPrefix = "/prefix".toList := by decide +kernel
  have hblob : (address.blob "../../x" digest).path.render = "/x/blobs/sha256:abc".toList := by
    decide +kernel
  have huploads : (address.uploads "../../x").path.render = "/x/blobs/uploads/".toList := by
    decide +kernel
  refine ⟨address, digest, hparse, rfl, hfront, hblob, huploads, fun url hm => ?_⟩
  simp only [List.mem_cons, List.not_mem_nil, or_false] at hm
  rcases hm with rfl | rfl
  · rw [hfront, hblob]
    decide
  · rw [hfront, huploads]
    decide

end OciBlobs.Registry.Address
