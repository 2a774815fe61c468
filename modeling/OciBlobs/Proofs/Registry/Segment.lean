/-
# `Proofs.Registry.Segment` — a digest is the last segment of its URL

Whatever the scheme of a registry, its path is a list of segments, since it has
a host (`rooted_of_host`), and so are the paths below it.  The families of
schemes read these in different ways: files lose empty segments at their front
and make drive letters normal.  None of this reaches the last two segments of a
blob's URL, for the walk along the path has come by `blobs` before it comes to
the digest (`blob_last`).
-/
import OciBlobs.Proofs.Registry.Address

namespace OciBlobs

namespace Url

/-! ## Paths behind a host -/

theorem Path.afterAuthority_rooted (family : Family) (text : List Char) :
    ∃ segments, afterAuthority family text = .rooted segments := by
  unfold afterAuthority
  split
  · split <;> exact ⟨_, rfl⟩
  · split <;> exact ⟨_, rfl⟩

variable {url : Url} {scheme text : List Char} {tail : Tail}

theorem rooted_of_parseBehindSlashes (h : parseBehindSlashes scheme tail text = .ok url) :
    ∃ segments, url.path = .rooted segments := by
  obtain ⟨_, _, pathText, _, -, rfl⟩ := parseBehindSlashes_eq_ok h
  exact Path.afterAuthority_rooted _ pathText

theorem rooted_of_fileBehindSlashes (h : fileBehindSlashes tail text = .ok url) :
    ∃ segments, url.path = .rooted segments := by
  unfold fileBehindSlashes at h
  dsimp only at h
  split at h
  · cases h
    exact ⟨_, rfl⟩
  · obtain ⟨host?, -, h⟩ := Except.bind_eq_ok h
    cases host? <;> (cases h; exact ⟨_, rfl⟩)

theorem rooted_of_parseFile (h : parseFile none tail = .ok url) :
    ∃ segments, url.path = .rooted segments := by
  unfold parseFile at h
  dsimp only at h
  split at h
  · cases h
    exact ⟨_, rfl⟩
  · split at h
    · split at h
      · split at h
        · exact rooted_of_fileBehindSlashes h
        · cases h
          exact ⟨_, rfl⟩
      · cases h
        exact ⟨_, rfl⟩
    · cases h
      exact ⟨_, rfl⟩

theorem rooted_of_parseOther (h : parseOther scheme tail = .ok url)
    (hhost : url.host?.isSome = true) : ∃ segments, url.path = .rooted segments := by
  unfold parseOther at h
  split at h
  · exact rooted_of_parseBehindSlashes h
  · cases h
    cases hhost
  · cases h
    cases hhost

theorem rooted_of_host {text : String} (h : parse text = .ok url)
    (hhost : url.host?.isSome = true) : ∃ segments, url.path = .rooted segments := by
  unfold parse parseFrom at h
  dsimp only at h
  split at h
  case h_2 => cases h
  case h_1 =>
    unfold parseAbsolute at h
    dsimp only at h
    split at h
    case h_1 => exact rooted_of_parseFile h
    case h_2 => exact rooted_of_parseBehindSlashes h
    case h_3 => exact rooted_of_parseOther h hhost

namespace Path

/-! ## The last segments of a walk -/

variable {family : Family} {segment : List Char} {walk : Walk}

theorem push_of_ne (h : Settled segment) (hne : walk.stack ≠ []) :
    walk.push family segment = walk.add [segment] := by
  unfold Walk.push
  dsimp only
  rw [if_neg fun hfile => hne hfile.2, unbroken_of_kept h.kept, encode_eq_self h.kept]

theorem push_blobs (walk : Walk) :
    walk.push family "blobs".toList = walk.add ["blobs".toList] := by
  have hplain : unbroken "blobs".toList = "blobs".toList := by decide
  have hkept : encode inPathSet "blobs".toList = "blobs".toList := by decide
  have hbroken : brokenDrive? "blobs".toList = none := by decide
  have hdrive : isDriveLetter "blobs".toList = false := by decide
  unfold Walk.push
  dsimp only
  rw [hplain, hkept, hbroken, hdrive]
  split <;> rfl

/-- Behind any segments, `blobs` and a last settled segment are added as they are. -/
theorem along_blobs (h : Settled segment) (front : List (List Char)) (walk : Walk) :
    ∃ stack, (Walk.along family walk (front ++ ["blobs".toList, segment])).stack =
      stack ++ ["blobs".toList, segment] := by
  have hvisit (walk : Walk) : walk.visit family "blobs".toList = walk.add ["blobs".toList] :=
    push_blobs walk
  have hlast (walk : Walk) (hne : walk.stack ≠ []) :
      Walk.along family walk [segment] = walk.add [segment] := by
    rw [Walk.along, unbroken_of_kept h.kept, h.notDot, h.notDots]
    exact push_of_ne h hne
  rw [Walk.along_append, Walk.along_cons, hvisit, hlast _ (by simp), Walk.add_add]
  exact ⟨_, Walk.add_stack ..⟩

theorem finish_blobs {stack : List (List Char)} (hstack : walk.stack =
    stack ++ ["blobs".toList, segment]) :
    ∃ front, finish family walk = front ++ ["blobs".toList, segment] := by
  have hdrop : walk.stack.dropWhile List.isEmpty =
      stack.dropWhile List.isEmpty ++ ["blobs".toList, segment] := by
    rw [hstack, List.dropWhile_append]
    split
    · next hempty =>
        rw [List.isEmpty_iff.mp hempty]
        rfl
    · rfl
  unfold finish
  split
  · refine ⟨stack.dropWhile List.isEmpty, ?_⟩
    unfold trimFront
    rw [hdrop]
    cases stack.dropWhile List.isEmpty <;> rfl
  · exact ⟨stack, hstack⟩

/-- A path that ends with `blobs` and a settled segment does so once it is read. -/
theorem afterAuthority_blobs (family : Family) (h : Settled segment) (text : List Char) :
    ∃ front, afterAuthority family ('/' :: text ++ "/blobs/".toList ++ segment) =
      .rooted (front ++ ["blobs".toList, segment]) := by
  have hslash : family.isSlash '/' = true := rfl
  have hblobs : Unslashed "blobs".toList := by decide
  have hcut : cut family (text ++ "/blobs/".toList ++ segment) =
      cut family text ++ ["blobs".toList, segment] := by
    have htext : text ++ "/blobs/".toList ++ segment =
        text ++ '/' :: ("blobs".toList ++ '/' :: segment) := by simp
    rw [htext, cut_append hslash, cut_append hslash, cut_unslashed hblobs,
      cut_unslashed h.unslashed]
    rfl
  obtain ⟨stack, hstack⟩ := along_blobs h (cut family text) {}
  rw [← hcut] at hstack
  obtain ⟨front, hfront⟩ := finish_blobs hstack
  exact ⟨front, congrArg Path.rooted hfront⟩

end Path

end Url

namespace Registry.Address

open Url

variable {text : String} {address : Address}

/-- What stands in front of a path below the base is empty or begins with a slash. -/
theorem pathPrefix_cases (h : parse text = .ok address) :
    address.pathPrefix = [] ∨ ∃ rest, address.pathPrefix = '/' :: rest := by
  obtain ⟨written, hwritten⟩ := parse_eq_ok h
  obtain ⟨segments, hpath⟩ := rooted_of_host hwritten address.hasHost
  have hprefix : address.pathPrefix <+: (Path.rooted segments).render := by
    rw [pathPrefix, hpath]
    obtain ⟨slashes, hslashes⟩ :=
      List.dropWhile_suffix (l := (Path.rooted segments).render.reverse) (· == '/')
    exact ⟨slashes.reverse, by rw [← List.reverse_append, hslashes, List.reverse_reverse]⟩
  cases hp : address.pathPrefix with
  | nil => exact .inl rfl
  | cons c rest =>
      obtain ⟨more, hmore⟩ := hp ▸ hprefix
      cases segments with
      | nil => cases hmore
      | cons first others =>
          rw [Path.render, List.flatMap_cons, List.cons_append, List.cons_append] at hmore
          obtain ⟨rfl, -⟩ := List.cons.inj hmore
          exact .inr ⟨rest, rfl⟩

/-- The last two segments of a blob's URL are `blobs` and the digest as it is,
whatever the registry and the repository. -/
theorem blob_last (h : parse text = .ok address) (repository : String) (digest : Digest) :
    ∃ front, (address.blob repository digest).path =
      .rooted (front ++ ["blobs".toList, digest.chars]) := by
  obtain ⟨lead, hlead⟩ : ∃ lead, address.pathPrefix ++ ("/v2/".toList ++ repository.toList ++
      "/blobs/".toList ++ digest.chars) = '/' :: lead ++ "/blobs/".toList ++ digest.chars := by
    rcases pathPrefix_cases h with hnil | ⟨rest, hrest⟩
    · exact ⟨"v2/".toList ++ repository.toList, by simp [hnil]⟩
    · exact ⟨rest ++ "/v2/".toList ++ repository.toList, by simp [hrest]⟩
  obtain ⟨front, hfront⟩ :=
    Path.afterAuthority_blobs address.base.family (settled_digest digest) lead
  -- the first character is a slash, and no mark that would end the path
  have hmark : (((Path.unbroken ('/' :: lead ++ "/blobs/".toList ++ digest.chars)).head?).any
      fun c => c == '?' || c == '#') = false := rfl
  refine ⟨front, ?_⟩
  unfold blob endpoint withPath
  dsimp only
  rw [hlead, hmark, ← hfront]
  rfl

end Registry.Address

end OciBlobs
