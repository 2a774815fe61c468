/-
# `Proofs.Url.Web` — web URLs from their own text

A URL of a web scheme that was read has a settled authority and a path of
settled segments (`settled_of_parse`).  No character of its origin and path
ends a part before its mark, so without query and fragment such a URL is read as
itself again (`parse_text`), whatever the text it was first read from, unless its
host has a label that is too long to be read (`hostFits`).
-/
import OciBlobs.Proofs.Url.Authority
import OciBlobs.Proofs.Url.Path

namespace OciBlobs.Url

/-- A URL of a web scheme as reading leaves it. -/
structure Settled (url : Url) : Prop where
  web : url.family = .web
  authority : ∃ authority, url.authority = some authority ∧ authority.Settled url.scheme
  path : ∃ segments, url.path = .rooted segments ∧ segments ≠ [] ∧
    ∀ segment ∈ segments, Path.Settled segment

/-- A URL with the scheme, names, host and port of another. -/
structure SameServer (url base : Url) : Prop where
  scheme : url.scheme = base.scheme
  username : url.username = base.username
  password : url.password = base.password
  host : url.host? = base.host?
  port : url.port? = base.port?

/-- Whether every label of the host of a URL has no more digits than are read. -/
def hostFits (url : Url) : Bool :=
  url.host?.all Host.fits

/-! ## What was read -/

variable {url : Url} {scheme text : List Char} {tail : Tail}

theorem parseBehindSlashes_eq_ok (h : parseBehindSlashes scheme tail text = .ok url) :
    ∃ authority written pathText ended, parseAuthority scheme written ended = .ok authority ∧
      url = withTail ⟨scheme, some authority, .afterAuthority (familyOf scheme) pathText, none, none⟩
        tail := by
  obtain ⟨authority, ha, h⟩ := Except.bind_eq_ok h
  cases h
  exact ⟨authority, _, _, _, ha, rfl⟩

theorem scheme_of_fileBehindSlashes (h : fileBehindSlashes tail text = .ok url) :
    url.scheme = ['f', 'i', 'l', 'e'] := by
  unfold fileBehindSlashes at h
  dsimp only at h
  split at h
  · cases h
    rfl
  · obtain ⟨host?, -, h⟩ := Except.bind_eq_ok h
    cases host? <;> (cases h; rfl)

/-- What is read as a file is one. -/
theorem scheme_of_parseFile (h : parseFile none tail = .ok url) :
    url.scheme = ['f', 'i', 'l', 'e'] := by
  unfold parseFile at h
  dsimp only at h
  split at h
  · cases h
    rfl
  · split at h
    · split at h
      · split at h
        · exact scheme_of_fileBehindSlashes h
        · cases h
          rfl
      · cases h
        rfl
    · cases h
      rfl

theorem scheme_of_parseOther (h : parseOther scheme tail = .ok url) : url.scheme = scheme := by
  unfold parseOther at h
  split at h
  · obtain ⟨_, _, _, _, -, rfl⟩ := parseBehindSlashes_eq_ok h
    rfl
  · cases h
    rfl
  · cases h
    rfl

/-- A web URL has come from a text with an authority, and is settled. -/
theorem settled_of_parse {text : String} (h : parse text = .ok url) (hweb : url.family = .web) :
    url.Settled := by
  unfold parse parseFrom at h
  dsimp only at h
  split at h
  case h_2 => cases h
  case h_1 scheme rest _ =>
    unfold parseAbsolute at h
    dsimp only at h
    split at h
    case h_1 hfile =>
      rw [Url.family, scheme_of_parseFile h] at hweb
      cases hweb
    case h_2 hfamily =>
      have hspecial : (familyOf scheme).isSpecial = true := by rw [hfamily]; rfl
      obtain ⟨authority, written, pathText, ended, ha, rfl⟩ := parseBehindSlashes_eq_ok h
      refine ⟨hweb, ⟨authority, rfl, Authority.settled_of_parse hspecial ha⟩, ?_⟩
      rw [hfamily]
      exact Path.afterAuthority_settled pathText
    case h_3 hother =>
      rw [Url.family, scheme_of_parseOther h, hother] at hweb
      cases hweb

/-! ## Clear texts -/

/-- No blank or break. -/
def Solid (text : List Char) : Prop :=
  ∀ c ∈ text, 0x20 < c.toNat

/-- No blank or break and no mark of a query or fragment. -/
def Clear (text : List Char) : Prop :=
  ∀ c ∈ text, 0x20 < c.toNat ∧ c ≠ '?' ∧ c ≠ '#'

instance {text : List Char} : Decidable (Solid text) :=
  List.decidableBAll _ text

instance {text : List Char} : Decidable (Clear text) :=
  List.decidableBAll _ text

theorem Solid.append {front back : List Char} (hf : Solid front) (hb : Solid back) :
    Solid (front ++ back) :=
  fun c hc => (List.mem_append.mp hc).elim (hf c) (hb c)

theorem Clear.append {front back : List Char} (hf : Clear front) (hb : Clear back) :
    Clear (front ++ back) :=
  fun c hc => (List.mem_append.mp hc).elim (hf c) (hb c)

theorem Clear.solid (h : Clear text) : Solid text :=
  fun c hc => (h c hc).1

theorem dropWhile_edge (h : Solid text) (hne : text ≠ []) (rest : List Char) :
    (text ++ rest).dropWhile (·.toNat ≤ 0x20) = text ++ rest := by
  obtain ⟨c, others, rfl⟩ := List.exists_cons_of_ne_nil hne
  have hc := h c List.mem_cons_self
  exact List.dropWhile_cons_of_neg (by simpa using hc)

/-- Blanks behind a solid text go, and nothing of the text goes with them. -/
theorem trim_append {front : List Char} (h : Solid front) (hne : front ≠ []) (text : List Char) :
    trim (front ++ text) = front ++ (text.reverse.dropWhile (·.toNat ≤ 0x20)).reverse := by
  have hreverse : Solid front.reverse := fun c hc => h c (List.mem_reverse.mp hc)
  have hend := dropWhile_edge hreverse (List.reverse_ne_nil_iff.mpr hne) []
  rw [List.append_nil] at hend
  unfold trim
  dsimp only
  rw [dropWhile_edge h hne, List.reverse_append, List.dropWhile_append]
  split
  case isTrue hempty => simp [hend, List.isEmpty_iff.mp hempty]
  case isFalse => rw [List.reverse_append, List.reverse_reverse]

theorem trim_of_solid (h : Solid text) : trim text = text := by
  rcases eq_or_ne text [] with rfl | hne
  · rfl
  · simpa using trim_append h hne []

theorem isBreak_of_solid (h : Solid text) {c : Char} (hc : c ∈ text) : Path.isBreak c = false := by
  have hbeyond := h c hc
  cases hb : Path.isBreak c with
  | false => rfl
  | true =>
      simp only [Path.isBreak, Bool.or_eq_true, beq_iff_eq] at hb
      rcases hb with (rfl | rfl) | rfl <;> exact absurd hbeyond (by decide)

theorem unbroken_of_solid (h : Solid text) : Path.unbroken text = text :=
  List.filter_eq_self.mpr fun c hc => by rw [isBreak_of_solid h hc]; rfl

theorem unbroken_append {front : List Char} (h : Solid front) (text : List Char) :
    Path.unbroken (front ++ text) = front ++ Path.unbroken text := by
  rw [Path.unbroken, List.filter_append]
  exact congrArg (· ++ Path.unbroken text) (unbroken_of_solid h)

theorem skip_of_solid {front : List Char} (h : Solid front) :
    Path.skip front.length (front ++ text) = text := by
  induction front with
  | nil => cases text <;> rfl
  | cons c rest ih =>
      have hbreak := isBreak_of_solid h (List.mem_cons_self (a := c) (l := rest))
      rw [List.length_cons, List.cons_append, Path.skip, hbreak, if_neg (by decide)]
      exact ih fun d hd => h d (List.mem_cons_of_mem _ hd)

/-- A clear text has no query and no fragment. -/
theorem tail_of_clear (h : Clear text) : Tail.ofChars text = ⟨text, none, none⟩ := by
  have hquery : ∀ c ∈ text, (c != '?') = true := fun c hc => bne_iff_ne.mpr (h c hc).2.1
  have hfragment : ∀ c ∈ text, (c != '#') = true := fun c hc => bne_iff_ne.mpr (h c hc).2.2
  simp only [Tail.ofChars, List.takeWhile_eq_self_iff.mpr hfragment,
    List.takeWhile_eq_self_iff.mpr hquery, List.dropWhile_eq_nil_iff.mpr hfragment,
    List.dropWhile_eq_nil_iff.mpr hquery]

/-! ## Read once more -/

theorem clear_of_kept {segment : List Char} (h : Kept inPathSet segment) : Clear segment := by
  intro c hc
  obtain ⟨hset, hascii⟩ := h c hc
  exact Host.forall_of_lt (P := fun c => inPathSet c = false → 0x20 < c.toNat ∧ c ≠ '?' ∧ c ≠ '#')
    (by decide) hascii hset

theorem clear_of_inAuthority (h : ∀ c ∈ text, inAuthority c = true) : Clear text := by
  intro c hc
  have hall := h c hc
  simp [inAuthority] at hall
  exact ⟨hall.1, hall.2.2.2.1, hall.2.2.2.2⟩

theorem clear_render {segments : List (List Char)}
    (h : ∀ segment ∈ segments, Path.Settled segment) :
    Clear (Path.rooted segments).render := by
  intro c hc
  obtain ⟨segment, hs, hc⟩ := List.mem_flatMap.mp hc
  rcases List.mem_cons.mp hc with rfl | hc
  · decide
  · exact clear_of_kept (h segment hs).kept c hc

theorem web_schemes (h : familyOf scheme = .web) :
    scheme ∈ [['h', 't', 't', 'p'], ['h', 't', 't', 'p', 's'], ['w', 's'], ['w', 's', 's'],
      ['f', 't', 'p']] := by
  have hchars {name : String} (hs : String.ofList scheme = name) : scheme = name.toList := by
    rw [← hs, String.toList_ofList]
  unfold familyOf at h
  split at h
  case h_1 hs => rw [hchars hs]; decide
  case h_2 hs => rw [hchars hs]; decide
  case h_3 hs => rw [hchars hs]; decide
  case h_4 hs => rw [hchars hs]; decide
  case h_5 hs => rw [hchars hs]; decide
  all_goals cases h

theorem cutScheme_web (h : familyOf scheme = .web) (rest : List Char) :
    cutScheme? (scheme ++ ':' :: rest) = some (scheme, rest) := by
  have hscheme := web_schemes h
  simp only [List.mem_cons, List.not_mem_nil, or_false] at hscheme
  rcases hscheme with rfl | rfl | rfl | rfl | rfl <;> rfl

theorem clear_web (h : familyOf scheme = .web) : Clear scheme := by
  have hscheme := web_schemes h
  simp only [List.mem_cons, List.not_mem_nil, or_false] at hscheme
  rcases hscheme with rfl | rfl | rfl | rfl | rfl <;> decide

theorem cutAuthority_render {authority : Authority} (h : authority.Settled scheme) :
    cutAuthority authority.render = (authority.render, []) := by
  obtain ⟨host, hhost, hsettled⟩ := h.host
  have hbehind : (renderPort authority.port).dropWhile (· != '\\') = [] := by
    refine List.dropWhile_eq_nil_iff.mpr fun c hc => ?_
    rw [bne_iff_ne]
    rintro rfl
    exact absurd (mem_renderPort hc).1 (by decide)
  simp only [cutAuthority, h.cutUserinfo_render hhost, cutHost_render hsettled head_renderPort,
    hbehind, List.length_nil, Nat.sub_zero, List.take_length]

theorem isSlash_of_inAuthority {c : Char} (h : inAuthority c = true) :
    Family.web.isSlash c = false := by
  simp [inAuthority] at h
  simp [Family.isSlash, h.2.1, h.2.2.1]

theorem Authority.Settled.render_ne_nil {authority : Authority} (h : authority.Settled scheme) :
    authority.render ≠ [] := by
  obtain ⟨host, hhost, hsettled⟩ := h.host
  simp [Authority.render_eq hhost, hsettled.render_ne_nil]

theorem parseBehindSlashes_front (hweb : familyOf scheme = .web) {front path : List Char}
    (hfront : ∀ c ∈ front, Family.web.isSlash c = false)
    (hpath : ∀ c ∈ path.head?, Family.web.isSlash c = true)
    (hcut : cutAuthority front = (front, [])) (tail : Tail) :
    parseBehindSlashes scheme tail (front ++ path) =
      (parseAuthority scheme front (path.isEmpty && !tail.goesOn)).map fun authority =>
        withTail { scheme := scheme, authority := some authority, path := .afterAuthority .web path }
          tail := by
  have hf : ∀ c ∈ front, (!Family.web.isSlash c) = true := fun c hc => by rw [hfront c hc]; rfl
  have hp : ∀ c ∈ path.head?, (!Family.web.isSlash c) = false := fun c hc => by
    rw [hpath c hc]
    rfl
  unfold parseBehindSlashes
  rw [hweb]
  simp only [takeWhile_front hf hp, dropWhile_front hf hp, hcut, List.nil_append]
  cases parseAuthority scheme front (path.isEmpty && !tail.goesOn) with
  | ok authority => rfl
  | error fault => rfl

/-- Host and port without a name are all up to the next slash. -/
theorem parseBehindSlashes_nameless (hweb : familyOf scheme = .web) {name port path : List Char}
    (hn : Host.Bare name) (hne : name ≠ []) (hp : ∀ c ∈ port.head?, c = ':')
    (hfront : ∀ c ∈ name ++ port, Family.web.isSlash c = false ∧ c ≠ '@')
    (hpath : ∀ c ∈ path.head?, Family.web.isSlash c = true) (tail : Tail) :
    parseBehindSlashes scheme tail ((name ++ port) ++ path) =
      (Host.parse name).bind fun host => (parsePort scheme port).map fun port? =>
        withTail
          { scheme := scheme
            authority := some { host := some host, port := port? }
            path := .afterAuthority .web path }
          tail := by
  have hspecial : (familyOf scheme).isSpecial = true := by rw [hweb]; rfl
  have hat : '@' ∉ name ++ port := fun hm => (hfront _ hm).2 rfl
  have hback : '\\' ∉ port := fun hm => nomatch (hfront _ (List.mem_append_right _ hm)).1
  rw [parseBehindSlashes_front hweb (fun c hc => (hfront c hc).1) hpath
      (cutAuthority_nameless hn hp hat hback), parseAuthority_nameless hspecial hn hne hp hat]
  cases Host.parse name with
  | error fault => rfl
  | ok host => cases parsePort scheme port <;> rfl

/-- Authority and path of a web URL are read as themselves behind two slashes, if the
host is. -/
theorem parseBehindSlashes_render (hweb : familyOf scheme = .web) {authority : Authority}
    (ha : authority.Settled scheme) {segments : List (List Char)} (hne : segments ≠ [])
    (hs : ∀ segment ∈ segments, Path.Settled segment) (tail : Tail) :
    parseBehindSlashes scheme tail (authority.render ++ (Path.rooted segments).render) =
      if authority.host.all Host.fits then
        .ok (withTail { scheme := scheme, authority := some authority, path := .rooted segments }
          tail)
      else .error .invalidDomain := by
  have hpath : ∀ c ∈ (Path.rooted segments).render.head?, Family.web.isSlash c = true := by
    cases segments with
    | nil => exact absurd rfl hne
    | cons first rest => rintro c ⟨⟩; rfl
  rw [parseBehindSlashes_front hweb (fun c hc => isSlash_of_inAuthority (ha.mem_render hc)) hpath
      (cutAuthority_render ha), ha.parse_render (by rw [hweb]; rfl),
    Path.afterAuthority_render hne hs]
  cases authority.host.all Host.fits <;> rfl

/-- What stands behind the scheme of a clear text is a tail without query and
fragment. -/
theorem parse_of_scheme {rest : List Char}
    (hcut : cutScheme? (scheme ++ ':' :: rest) = some (scheme, rest))
    (h : Clear (scheme ++ ':' :: rest)) :
    parse (String.ofList (scheme ++ ':' :: rest)) =
      parseAbsolute none scheme ⟨rest, none, none⟩ := by
  have hsplit : scheme ++ ':' :: rest = (scheme ++ [':']) ++ rest := by simp
  have hfront : Solid (scheme ++ [':']) := fun c hc =>
    (h c (hsplit ▸ List.mem_append_left _ hc)).1
  have hrest : Clear rest := fun c hc => h c (hsplit ▸ List.mem_append_right _ hc)
  have hlength : (scheme ++ ':' :: rest).length - rest.length = (scheme ++ [':']).length := by
    rw [hsplit, List.length_append, Nat.add_sub_cancel]
  unfold parse parseFrom
  dsimp only
  rw [String.toList_ofList, trim_of_solid h.solid, unbroken_of_solid h.solid, hcut]
  dsimp only
  rw [hlength, hsplit, skip_of_solid hfront, tail_of_clear hrest]

theorem parse_without_scheme (hcut : cutScheme? text = none) (h : Solid text) :
    parse (String.ofList text) = .error .relativeWithoutBase := by
  unfold parse parseFrom
  dsimp only
  rw [String.toList_ofList, trim_of_solid h, unbroken_of_solid h, hcut]
  rfl

theorem parse_clear (hweb : familyOf scheme = .web) {rest : List Char} (h : Clear rest) :
    parse (String.ofList (scheme ++ ':' :: rest)) =
      parseAbsolute none scheme ⟨rest, none, none⟩ := by
  have hcolon : Clear [':'] := by decide
  exact parse_of_scheme (cutScheme_web hweb rest) ((clear_web hweb).append (hcolon.append h))

theorem isSlash_web (c : Char) : Family.web.isSlash c = (c == '/' || c == '\\') := by
  simp [Family.isSlash, Family.isSpecial]

theorem parse_slashes (hweb : familyOf scheme = .web) {main : List Char} (h : Clear main)
    (hhead : ∀ c ∈ main.head?, Family.web.isSlash c = false) :
    parse (String.ofList (scheme ++ ':' :: '/' :: '/' :: main)) =
      parseBehindSlashes scheme ⟨'/' :: '/' :: main, none, none⟩ main := by
  have hslashes : Clear ['/', '/'] := by decide
  have hclear : Clear ('/' :: '/' :: main) := hslashes.append h
  have hmain : ∀ c ∈ main.head?, (c == '/' || c == '\\') = false := fun c hc =>
    isSlash_web c ▸ hhead c hc
  have hdrop : (['/', '/'] ++ main).dropWhile (fun c => c == '/' || c == '\\') = main :=
    dropWhile_front (by simp) hmain
  rw [parse_clear hweb hclear]
  unfold parseAbsolute
  dsimp only
  rw [hweb]
  dsimp only [Tail.main]
  rw [unbroken_of_solid hclear.solid]
  exact congrArg (parseBehindSlashes scheme _) hdrop

/-- A web URL that was read, without query and fragment, is read as itself, if its host
fits; otherwise the text is that of no URL. -/
theorem Settled.parse_text (h : url.Settled) (hquery : url.query = none)
    (hfragment : url.fragment = none) :
    parse url.text = if url.hostFits then .ok url else .error .invalidDomain := by
  obtain ⟨scheme, authority?, path, query?, fragment?⟩ := url
  obtain ⟨hweb, ⟨authority, hauthority, ha⟩, segments, hpath, hne, hs⟩ := h
  dsimp only [Url.family] at *
  subst hauthority hpath hquery hfragment
  have hclear : Clear (authority.render ++ (Path.rooted segments).render) :=
    (clear_of_inAuthority fun c hc => ha.mem_render hc).append (clear_render hs)
  have hhead : ∀ c ∈ (authority.render ++ (Path.rooted segments).render).head?,
      Family.web.isSlash c = false := by
    obtain ⟨first, rest, hfirst⟩ := List.exists_cons_of_ne_nil ha.render_ne_nil
    have hslash := isSlash_of_inAuthority (ha.mem_render (hfirst ▸ List.mem_cons_self))
    rw [hfirst]
    rintro c ⟨⟩
    exact hslash
  have hchars : Url.text ⟨scheme, some authority, .rooted segments, none, none⟩ =
      String.ofList (scheme ++ ':' :: '/' :: '/' ::
        (authority.render ++ (Path.rooted segments).render)) := by
    simp [Url.text, Url.chars, Url.origin, renderQuery, renderFragment]
  rw [hchars, parse_slashes hweb hclear hhead, parseBehindSlashes_render hweb ha hne hs]
  rfl

end OciBlobs.Url
