/-
# `Proofs.Registry.Reference` — where a registry says that an upload goes on

The URL at which uploads into a repository begin is a directory: its last segment
is empty (`uploads_path`).  So a location of ordinary names is resolved as a
reference is: behind a slash it is the path of the same server
(`Reference.resolves_rooted`), and else what follows the directory
(`Reference.resolves_beside`).  A location with a server of its own has one result
whichever URL was asked (`resolveLocation_absolute`): nothing of that URL, least of
all its names, goes to another server.
-/
import OciBlobs.Proofs.Blob.Session
import OciBlobs.Proofs.Registry.Name
import OciBlobs.Proofs.Url.Relative
import OciBlobs.Registry.Location

namespace OciBlobs.Registry

open Url

/-! ## Ordinary references -/

/-- Characters of a query of ordinary names and values. -/
def isQueryChar (c : Char) : Bool :=
  isNameChar c || c == '=' || c == '&'

/-- A location without scheme and server: names with slashes between them, none of
them empty or dots, and a query. -/
structure Reference where
  path : String
  query : Option (List Char) := none
  ordinary : Ordinary path
  named : [] ∉ Text.cutAt '/' path.toList
  plain : ∀ text ∈ query, ∀ c ∈ text, isQueryChar c = true

def Reference.text (reference : Reference) : String :=
  reference.path ++ String.ofList (renderQuery reference.query)

/-- A location is resolved to a URL of the server that was asked, with this path
and query and without a fragment. -/
def Resolves (request : Url) (location : String) (path : List Char)
    (query : Option (List Char)) : Prop :=
  ∃ url, resolveLocation request location = .ok url ∧ SameServer url request ∧
    url.path.render = path ∧ url.query = query ∧ url.fragment = none

variable {request : Url}

theorem Resolves.of_join {location : String} {c : Char} (hc : c ∈ location.toList)
    (hblank : Text.isBlank c = false) {segments : List (List Char)} {query : Option (List Char)}
    (hjoin : request.join location =
      .ok { request with path := .rooted segments, query := query, fragment := none }) :
    Resolves request location (Path.rooted segments).render query := by
  have hall : location.toList.all Text.isBlank = false :=
    List.all_eq_false.mpr ⟨c, hc, by simp [hblank]⟩
  exact ⟨_, resolveLocation_eq_ok.mpr ⟨hall, hjoin⟩, ⟨rfl, rfl, rfl, rfl, rfl⟩, rfl, rfl, rfl⟩

theorem isBlank_of_isNameChar {c : Char} (h : isNameChar c = true) :
    Text.isBlank c = false ∧ c ≠ ':' :=
  Host.forall_of_lt (P := fun c => isNameChar c = true → Text.isBlank c = false ∧ c ≠ ':')
    (by decide) (toNat_lt_of_isNameChar h) h

theorem keptQuery_of_plain {query : Option (List Char)}
    (h : ∀ text ∈ query, ∀ c ∈ text, isQueryChar c = true) : KeptQuery query := by
  intro text ht c hc
  have hlt : c.toNat < 0x7F := by
    have hchar := h text ht c hc
    simp only [isQueryChar, Bool.or_eq_true, beq_iff_eq] at hchar
    rcases hchar with (hname | rfl) | rfl
    · exact toNat_lt_of_isNameChar hname
    all_goals decide
  have hkept : inSpecialQuerySet c = false :=
    Host.forall_of_lt (P := fun c => isQueryChar c = true → inSpecialQuerySet c = false)
      (by decide) hlt (h text ht c hc)
  exact ⟨hkept, by omega⟩

namespace Reference

theorem segments (reference : Reference) : ∃ first rest,
    Text.cutAt '/' reference.path.toList = first :: rest ∧ first ≠ [] ∧
      reference.path.toList = first ++ (Path.rooted rest).render := by
  obtain ⟨first, rest, hcut⟩ :=
    List.exists_cons_of_ne_nil (Text.cutAt_ne_nil '/' reference.path.toList)
  have htext : (Text.cutAt '/' reference.path.toList).flatMap ('/' :: ·) =
      '/' :: reference.path.toList := Text.flatMap_cutAt _
  rw [hcut, List.flatMap_cons, List.cons_append, List.cons.injEq] at htext
  refine ⟨first, rest, hcut, ?_, htext.2.symm⟩
  rintro rfl
  exact reference.named (hcut ▸ List.mem_cons_self)

theorem resolves_rooted (reference : Reference) (h : request.Settled) :
    Resolves request ("/" ++ reference.text) ('/' :: reference.path.toList) reference.query := by
  obtain ⟨first, rest, hcut, hne, hpath⟩ := reference.segments
  have hrender : (Path.rooted (first :: rest)).render = '/' :: reference.path.toList := by
    rw [hpath]
    rfl
  have hcolon : ':' ∉ (Path.rooted (first :: rest)).render := by
    rw [hrender, List.mem_cons, not_or]
    exact ⟨by decide, fun hm => (isBlank_of_isNameChar (reference.ordinary.chars _ hm)).2 rfl⟩
  have htext : "/" ++ reference.text =
      String.ofList ((Path.rooted (first :: rest)).render ++ renderQuery reference.query) := by
    rw [hrender]
    exact String.toList_injective (by simp [text])
  have hjoin := join_rooted h hne (hcut ▸ reference.ordinary.settled) hcolon
    (keptQuery_of_plain reference.plain)
  rw [← htext] at hjoin
  rw [← hrender]
  exact Resolves.of_join (c := '/') (by simp) (by decide) hjoin

theorem resolves_beside (reference : Reference) (h : request.Settled)
    {directory : List (List Char)} (hpath : request.path = .rooted (directory ++ [[]])) :
    Resolves request reference.text (request.path.render ++ reference.path.toList)
      reference.query := by
  obtain ⟨first, rest, hcut, hne, hnames⟩ := reference.segments
  obtain ⟨c, more, rfl⟩ := List.exists_cons_of_ne_nil hne
  have hc : c ∈ reference.path.toList := by simp [hnames]
  have hname := isBlank_of_isNameChar (reference.ordinary.chars c hc)
  have hcolon : ':' ∉ (c :: more) ++ (Path.rooted rest).render := fun hm =>
    (isBlank_of_isNameChar (reference.ordinary.chars _ (hnames ▸ hm))).2 rfl
  have htext : reference.text =
      String.ofList ((c :: more) ++ (Path.rooted rest).render ++ renderQuery reference.query) := by
    rw [← hnames]
    exact String.toList_injective (by simp [text])
  have hbefore : request.segments.dropLast = directory := by
    rw [Url.segments, hpath, List.dropLast_concat]
  have hrender : request.path.render ++ reference.path.toList =
      (Path.rooted (directory ++ (c :: more) :: rest)).render := by
    rw [hpath, hnames]
    simp [Path.render]
  have hjoin := join_beside h hne (hcut ▸ reference.ordinary.settled) hcolon
    (keptQuery_of_plain reference.plain)
  rw [← htext, hbefore] at hjoin
  rw [hrender]
  exact Resolves.of_join (by simp [text, hc]) hname.1 hjoin

end Reference

/-! ## Locations with a server of their own -/

/-- A location with a server of its own is read without a look at who was asked. -/
theorem join_of_web {location : String} (h : "http://".toList <+: location.toList ∨
    "https://".toList <+: location.toList) (request : Url) :
    request.join location = Url.parse location := by
  have hjoin {scheme : List Char} (hweb : familyOf scheme = .web)
      (hfront : scheme ++ [':', '/', '/'] <+: location.toList) :
      request.join location = Url.parse location := by
    obtain ⟨rest, hrest⟩ := hfront
    have hlocation : location = String.ofList (scheme ++ ':' :: '/' :: '/' :: rest) := by
      rw [← String.ofList_toList (s := location), ← hrest, List.append_assoc]
      rfl
    rw [hlocation]
    exact join_absolute hweb request rest
  rcases h with h | h
  · exact hjoin (rfl : familyOf "http".toList = .web) h
  · exact hjoin (rfl : familyOf "https".toList = .web) h

/-- Whoever was asked, a location with a server of its own has one result. -/
theorem resolveLocation_absolute {location : String} (h : "http://".toList <+: location.toList ∨
    "https://".toList <+: location.toList) (request other : Url) :
    resolveLocation request location = resolveLocation other location := by
  unfold resolveLocation
  rw [join_of_web h, join_of_web h]

theorem resolveLocation_absolute_eq_ok {location : String}
    (h : "http://".toList <+: location.toList ∨ "https://".toList <+: location.toList)
    (request url : Url) :
    resolveLocation request location = .ok url ↔ Url.parse location = .ok url := by
  have hblank : location.toList.all Text.isBlank = false := by
    have hmem : 'h' ∈ location.toList := by
      rcases h with h | h
      · exact h.subset (by decide)
      · exact h.subset (by decide)
    exact List.all_eq_false.mpr ⟨'h', hmem, by decide⟩
  rw [resolveLocation_eq_ok, join_of_web h]
  exact and_iff_right hblank

theorem resolveLocation_blank {location : String} (h : location.toList.all Text.isBlank = true)
    (request : Url) : ∃ cause, resolveLocation request location = .error (.malformed cause) := by
  unfold resolveLocation
  rw [if_pos h]
  exact ⟨_, rfl⟩

/-! ## Locations of uploads -/

variable {text : String} {address : Address}

/-- The locations that a registry may answer with, when it was asked at the URL
for uploads into any repository: a path, names that follow the directory, a URL of
any server, and blanks. -/
theorem locations_resolve_as_references (h : Address.parse text = .ok address)
    (hs : address.base.scheme = "http".toList ∨ address.base.scheme = "https".toList)
    (repository : String) :
    (address.uploads repository).path.render.getLast? = some '/' ∧
    (∀ reference : Reference,
      Resolves (address.uploads repository) ("/" ++ reference.text)
        ('/' :: reference.path.toList) reference.query ∧
      Resolves (address.uploads repository) reference.text
        ((address.uploads repository).path.render ++ reference.path.toList) reference.query) ∧
    (∀ location : String,
      ("http://".toList <+: location.toList ∨ "https://".toList <+: location.toList) →
        ∃ result, (∀ request : Url, resolveLocation request location = result) ∧
          (∀ url, result = .ok url ↔ Url.parse location = .ok url) ∧
          ∀ failure, result = .error failure → ∃ cause, failure = .malformed cause) ∧
    ∀ location : String, location.toList.all Text.isBlank = true →
      ∃ cause, resolveLocation (address.uploads repository) location =
        .error (.malformed cause) := by
  have hbase := Address.base_settled h hs
  have hrequest : (address.uploads repository).Settled := Address.endpoint_settled hbase _
  have hpath : (address.uploads repository).path = .rooted
      ((address.landing repository).stack ++ ["blobs".toList, "uploads".toList] ++ [[]]) := by
    rw [Address.uploads_path hbase, List.append_assoc]
    rfl
  refine ⟨?_, fun reference => ⟨?_, ?_⟩, fun location hweb => ?_, fun location hblank => ?_⟩
  · rw [hpath, Path.render, List.flatMap_append]
    exact List.getLast?_concat
  · exact reference.resolves_rooted hrequest
  · exact reference.resolves_beside hrequest hpath
  · exact ⟨resolveLocation (address.uploads repository) location,
      fun request => resolveLocation_absolute hweb _ _,
      fun url => resolveLocation_absolute_eq_ok hweb _ url, fun _ => resolveLocation_eq_error⟩
  · exact resolveLocation_blank hblank _

/-- A registry with names and a base path is asked, and answers with a segment that
only begins with dots. -/
theorem locations_resolve_as_references_names : ∃ (address : Address) (reference : Reference),
    Address.parse "http://u:p@h:81/x" = .ok address ∧ reference.text = "a/..b?k=v" ∧
      Resolves (address.uploads "r") ("/" ++ "a/..b?k=v") "/a/..b".toList
        (some ['k', '=', 'v']) ∧
      Resolves (address.uploads "r") "a/..b?k=v" "/x/v2/r/blobs/uploads/a/..b".toList
        (some ['k', '=', 'v']) ∧
      (∃ result, (∀ request : Url, resolveLocation request "http:///o?\t#" = result) ∧
        ∀ url, result = .ok url ↔ Url.parse "http:///o?\t#" = .ok url) ∧
      ∃ cause, resolveLocation (address.uploads "r") " \t" = .error (.malformed cause) := by
  let base : Url :=
    { scheme := "http".toList
      authority := some
        { username := ['u'], password := ['p'], host := some (.domain ['h']), port := some 81 }
      path := .rooted [['x']] }
  let reference : Reference :=
    { path := "a/..b"
      query := some ['k', '=', 'v']
      ordinary := by decide
      named := by decide
      plain := by
        rintro text ⟨⟩
        exact List.all_eq_true.mp (by decide) }
  have hparse : Address.parse "http://u:p@h:81/x" = .ok ⟨base, rfl⟩ :=
    Except.eq_ok_of_toOption (by decide +kernel)
  have htext : reference.text = "a/..b?k=v" := by decide
  have hslash : '/' :: reference.path.toList = "/a/..b".toList := by decide
  have hpath : (Address.uploads ⟨base, rfl⟩ "r").path.render ++ reference.path.toList =
      "/x/v2/r/blobs/uploads/a/..b".toList := by decide +kernel
  obtain ⟨-, hreference, habsolute, hblank⟩ :=
    locations_resolve_as_references hparse (.inl rfl) "r"
  obtain ⟨result, hsame, hwritten, -⟩ := habsolute "http:///o?\t#" (.inl (by decide))
  obtain ⟨hrooted, hbeside⟩ := hreference reference
  rw [htext, hslash] at hrooted
  rw [htext, hpath] at hbeside
  exact ⟨⟨base, rfl⟩, reference, hparse, htext, hrooted, hbeside, ⟨result, hsame, hwritten⟩,
    hblank " \t" (by decide)⟩

end OciBlobs.Registry
