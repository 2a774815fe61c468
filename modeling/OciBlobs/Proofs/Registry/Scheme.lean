/-
# `Proofs.Registry.Scheme` — addresses that leave their scheme out

An address of host, port and path is served over `https` if it names no scheme
(`parse_of_unnamed`).  Whether it names one is asked of the whole text, and a path
may hold `://` as well as any address may.  Then the text is read as it stands: it
begins with no scheme, or with one that is the host, and behind it stands the
port, which is a number (`host_of_named`).  So the scheme can be left out just if
the path does not hold the mark of one (`scheme_left_out_iff`).

    namesScheme_iff    the mark of a scheme anywhere
    parse_host         a host of labels in small letters and digits is a domain
    parse_https        an address with its scheme in front
    cutScheme_text     what an address begins with
-/
import OciBlobs.Proofs.Registry.Name

namespace OciBlobs.Registry

open Url

/-! ## The mark of a scheme -/

theorem namesScheme_iff (text : List Char) :
    namesScheme text = true ↔ [':', '/', '/'] <:+: text := by
  fun_induction namesScheme text with
  | case1 rest => exact ⟨fun _ => ⟨[], rest, rfl⟩, fun _ => rfl⟩
  | case2 c rest hne ih =>
      have hfront : ¬[':', '/', '/'] <+: c :: rest := by
        rintro ⟨more, hmore⟩
        obtain ⟨hc, hrest⟩ := List.cons.inj hmore
        exact hne more hc.symm hrest.symm
      rw [ih, List.infix_cons_iff]
      exact (or_iff_right hfront).symm
  | case3 => decide

/-- Without a slash in front of it, and without a colon at the end of what is in front
of it, a text begins no mark earlier. -/
theorem namesScheme_append {front : List Char} (hslash : '/' ∉ front)
    (hcolon : front.getLast? ≠ some ':') (text : List Char) :
    namesScheme (front ++ text) = namesScheme text := by
  induction front with
  | nil => rfl
  | cons c rest ih =>
      rw [List.mem_cons, not_or] at hslash
      rw [List.cons_append, namesScheme]
      · cases rest with
        | nil => rfl
        | cons d rest => exact ih hslash.2 (by simpa using hcolon)
      · -- the mark would begin with the first character
        rintro more rfl heq
        cases rest with
        | nil => exact hcolon rfl
        | cons d rest =>
            obtain ⟨rfl, -⟩ := List.cons.inj heq
            exact hslash.2 List.mem_cons_self

/-! ## Characters -/

/-- Characters of hosts are characters of schemes too, and they end no part of a URL. -/
theorem spared_of_simple {c : Char} (h : Host.isSimpleChar c = true) :
    isSchemeChar c = true ∧ (Family.web.isSlash c = false ∧ c ≠ '@') ∧
      0x20 < c.toNat ∧ c ≠ '?' ∧ c ≠ '#' :=
  Host.forall_of_lt (P := fun c => Host.isSimpleChar c = true →
      isSchemeChar c = true ∧ (Family.web.isSlash c = false ∧ c ≠ '@') ∧
        0x20 < c.toNat ∧ c ≠ '?' ∧ c ≠ '#')
    (by decide) (Host.toNat_lt_of_simple h) h

/-! ## Addresses without a scheme -/

/-- Characters of a path of ordinary names and colons. -/
def isPathChar (c : Char) : Bool :=
  isNameChar c || c == ':'

/-- Host, port and path of a registry.  The host has labels of small letters and
digits, none of them empty and the last one all letters. -/
structure Unschemed where
  host : List Char
  port : Option (List Char) := none
  path : List Char := []
  simple : Host.Simple host
  labelled : [] ∉ Text.cutAt '.' host
  top : ∀ label ∈ (Text.cutAt '.' host).getLast?, ∀ c ∈ label, c.isLower = true
  numbered : ∀ digits ∈ port, ∃ number, Text.ofDigits? digits = some number ∧ number ≤ 65535
  slashed : ∀ c ∈ path.head?, c = '/'
  plain : ∀ c ∈ path, isPathChar c = true

namespace Unschemed

/-- The port behind its colon. -/
def behindHost (address : Unschemed) : List Char :=
  match address.port with
  | some digits => ':' :: digits
  | none => []

def chars (address : Unschemed) : List Char :=
  address.host ++ address.behindHost ++ address.path

def text (address : Unschemed) : String :=
  String.ofList address.chars

variable (address : Unschemed)

/-! ### Hosts -/

theorem host_ne_nil : address.host ≠ [] := by
  intro hnil
  have hlabelled := address.labelled
  rw [hnil] at hlabelled
  exact hlabelled (by decide)

theorem letter_char {c : Char} (h : c.isLower = true) :
    c.isDigit = false ∧ c ≠ '0' ∧ Ipv4.digit? 10 c = none :=
  Host.forall_of_lt (P := fun c => c.isLower = true →
      c.isDigit = false ∧ c ≠ '0' ∧ Ipv4.digit? 10 c = none)
    (by decide) (Host.toNat_lt_of_isAlphanum (Host.isAlphanum_of_isLower h)) h

/-- A label of letters is no number, in any radix that a label can be read in. -/
theorem number_of_letters {label : List Char} (hne : label ≠ [])
    (h : ∀ c ∈ label, c.isLower = true) :
    label.all Char.isDigit = false ∧ Ipv4.number? label = none := by
  obtain ⟨c, rest, rfl⟩ := List.exists_cons_of_ne_nil hne
  obtain ⟨hdigit, hzero, hvalue⟩ := letter_char (h c List.mem_cons_self)
  have hnone : Ipv4.ofDigits? 10 (c :: rest) = none := by
    rw [Ipv4.ofDigits?, List.foldlM_cons, hvalue]
    rfl
  refine ⟨by simp [hdigit], ?_⟩
  unfold Ipv4.number?
  split <;> simp_all

theorem endsInNumber_host : Ipv4.endsInNumber address.host = false := by
  obtain ⟨front, label, hlabels⟩ : ∃ front label, Text.cutAt '.' address.host = front ++ [label] :=
    ⟨_, _, (List.dropLast_append_getLast (Text.cutAt_ne_nil '.' address.host)).symm⟩
  have hne : label ≠ [] := by
    rintro rfl
    exact address.labelled (by simp [hlabels])
  obtain ⟨hdigits, hnumber⟩ := number_of_letters hne (address.top label (by simp [hlabels]))
  have hall : Ipv4.labels address.host = front ++ [label] := by
    unfold Ipv4.labels
    rw [hlabels]
    simp [hne]
  simp [Ipv4.endsInNumber, hall, hdigits, hnumber]

theorem parse_host : Host.parse address.host = .ok (.domain address.host) := by
  rw [address.simple.parse address.host_ne_nil, address.endsInNumber_host]
  rfl

/-! ### Characters -/

theorem isDigit_of_port {digits : List Char} (h : digits ∈ address.port) :
    digits ≠ [] ∧ ∀ c ∈ digits, c.isDigit = true := by
  obtain ⟨number, hnumber, -⟩ := address.numbered digits h
  unfold Text.ofDigits? at hnumber
  split at hnumber
  · cases hnumber
  case isFalse hdigits =>
    simp only [Bool.or_eq_true, not_or, Bool.not_eq_true', Bool.not_eq_false] at hdigits
    exact ⟨by simpa using hdigits.1, List.all_eq_true.mp hdigits.2⟩

theorem front_char {c : Char} (h : c ∈ address.host ++ address.behindHost) :
    Host.isSimpleChar c = true ∨ c = ':' := by
  rcases List.mem_append.mp h with h | h
  · exact .inl (address.simple c h)
  · unfold behindHost at h
    split at h
    · next digits hport =>
        rcases List.mem_cons.mp h with rfl | h
        · exact .inr rfl
        · exact .inl (Host.simple_of_isDigit ((address.isDigit_of_port hport).2 c h))
    · cases h

theorem head_behindHost : ∀ c ∈ address.behindHost.head?, c = ':' := by
  unfold behindHost
  split
  · rintro c ⟨⟩
    rfl
  · nofun

theorem parsePort_behindHost (scheme : List Char) :
    ∃ port?, parsePort scheme address.behindHost = .ok port? := by
  unfold behindHost
  split
  · next digits hport =>
      obtain ⟨number, hnumber, hbound⟩ := address.numbered digits hport
      obtain ⟨hne, hdigits⟩ := address.isDigit_of_port hport
      have hall : digits.all Char.isDigit = true := List.all_eq_true.mpr hdigits
      have hempty : digits.isEmpty = false := by simpa using hne
      have hvalue := Ipv4.ofDigits_of_text hnumber
      exact ⟨if usualPort? scheme = some number then none else some number,
        by simp [parsePort, hall, hempty, hvalue, Nat.not_lt.mpr hbound]⟩
  · exact ⟨none, rfl⟩

theorem front_spared {c : Char} (h : c ∈ address.host ++ address.behindHost) :
    Family.web.isSlash c = false ∧ c ≠ '@' := by
  rcases address.front_char h with hc | rfl
  · exact (spared_of_simple hc).2.1
  · decide

theorem kept_path : Kept inPathSet address.path := by
  intro c hc
  have hplain := address.plain c hc
  simp only [isPathChar, Bool.or_eq_true, beq_iff_eq] at hplain
  rcases hplain with hname | rfl
  · exact ⟨(name_char hname).1, (toNat_lt_of_isNameChar hname).trans (by decide)⟩
  · decide

theorem clear_chars : Clear address.chars := by
  refine Clear.append (fun c hc => ?_) (clear_of_kept address.kept_path)
  rcases address.front_char hc with hc | rfl
  · exact (spared_of_simple hc).2.2
  · decide

theorem slash_of_path : ∀ c ∈ address.path.head?, Family.web.isSlash c = true := by
  intro c hc
  rw [address.slashed c hc]
  rfl

/-! ### With a scheme in front -/

/-- The URL of an address over `https`. -/
def url (port? : Option Nat) : Url where
  scheme := "https".toList
  authority := some { host := some (.domain address.host), port := port? }
  path := .afterAuthority .web address.path

theorem parse_https :
    ∃ port?, Url.parse ("https://" ++ address.text) = .ok (address.url port?) := by
  have hweb : familyOf "https".toList = .web := rfl
  have htext : "https://" ++ address.text =
      String.ofList ("https".toList ++ ':' :: '/' :: '/' :: address.chars) :=
    String.toList_injective (by simp [text])
  have hhead : ∀ c ∈ address.chars.head?, Family.web.isSlash c = false := by
    obtain ⟨first, rest, hhost⟩ := List.exists_cons_of_ne_nil address.host_ne_nil
    have hfirst : first ∈ address.host := hhost ▸ List.mem_cons_self
    rw [chars, hhost]
    rintro c ⟨⟩
    exact (address.front_spared (List.mem_append_left _ hfirst)).1
  obtain ⟨port?, hport⟩ := address.parsePort_behindHost "https".toList
  refine ⟨port?, ?_⟩
  rw [htext, parse_slashes hweb address.clear_chars hhead, chars,
    parseBehindSlashes_nameless hweb address.simple.plain.bare address.host_ne_nil
      address.head_behindHost (fun c hc => address.front_spared hc) address.slash_of_path,
    address.parse_host, hport]
  rfl

/-! ### As it stands -/

/-- What an address begins with: its host, if it begins with a letter and a colon is
behind it. -/
theorem cutScheme_text {rest : List Char} (hr : ∀ c ∈ rest.head?, isSchemeChar c = false) :
    cutScheme? (address.host ++ rest) = none ∨
      ∃ behind, rest = ':' :: behind ∧ cutScheme? (address.host ++ rest) =
        some (address.host, behind) := by
  have hscheme : ∀ c ∈ address.host, isSchemeChar c = true := fun c hc =>
    (spared_of_simple (address.simple c hc)).1
  obtain ⟨first, more, hfirst⟩ := List.exists_cons_of_ne_nil address.host_ne_nil
  have hcons : address.host ++ rest = first :: (more ++ rest) := by rw [hfirst]; rfl
  have hdrop : (first :: (more ++ rest)).dropWhile isSchemeChar = rest :=
    hcons ▸ dropWhile_front hscheme hr
  have htake : (first :: (more ++ rest)).takeWhile isSchemeChar = address.host :=
    hcons ▸ takeWhile_front hscheme hr
  rw [hcons]
  unfold cutScheme?
  dsimp only
  rw [hdrop, htake, address.simple.toLower]
  split
  · split
    · next behind => exact .inr ⟨behind, rfl, rfl⟩
    · exact .inl rfl
  · exact .inl rfl

theorem endsInNumber_digits {digits : List Char} (hne : digits ≠ [])
    (h : ∀ c ∈ digits, c.isDigit = true) : Ipv4.endsInNumber digits = true := by
  have hstop : '.' ∉ digits := fun hm => absurd (h '.' hm) (by decide)
  have hlabels : Ipv4.labels digits = [digits] := by
    unfold Ipv4.labels
    rw [Text.cutAt_of_not_mem hstop]
    simp [hne]
  have hall : digits.all Char.isDigit = true := List.all_eq_true.mpr h
  simp [Ipv4.endsInNumber, hlabels, hall, hne]

/-- Digits are never read as a domain. -/
theorem host_of_digits {scheme digits path : List Char} (hweb : familyOf scheme = .web)
    (hne : digits ≠ []) (hd : ∀ c ∈ digits, c.isDigit = true)
    (hpath : ∀ c ∈ path.head?, Family.web.isSlash c = true) {tail : Tail} {url : Url}
    (h : parseBehindSlashes scheme tail (digits ++ path) = .ok url) (name : List Char) :
    url.host? ≠ some (.domain name) := by
  have hsimple : Host.Simple digits := fun c hc => Host.simple_of_isDigit (hd c hc)
  have hfront : ∀ c ∈ digits ++ [], Family.web.isSlash c = false ∧ c ≠ '@' := by
    intro c hc
    rw [List.append_nil] at hc
    exact (spared_of_simple (hsimple c hc)).2.1
  rw [← List.append_nil digits,
    parseBehindSlashes_nameless hweb hsimple.plain.bare hne (by nofun) hfront hpath,
    hsimple.parse hne, endsInNumber_digits hne hd, if_pos rfl] at h
  cases haddress : Ipv4.parse? digits with
  | none =>
      rw [haddress] at h
      cases h
  | some value =>
      rw [haddress] at h
      cases h
      intro heq
      cases heq

/-- Behind a scheme that is the host stands the port: whatever is read, it is no URL
of that host. -/
theorem host_of_port {scheme digits path : List Char} (hne : digits ≠ [])
    (hd : ∀ c ∈ digits, c.isDigit = true) (hpath : ∀ c ∈ path.head?, Family.web.isSlash c = true)
    {tail : Tail} (hmain : tail.main = digits ++ path) {url : Url}
    (h : parseAbsolute none scheme tail = .ok url) (name : List Char) :
    url.host? ≠ some (.domain name) := by
  obtain ⟨d, more, rfl⟩ := List.exists_cons_of_ne_nil hne
  have hslash : d ≠ '/' ∧ d ≠ '\\' := by
    constructor <;> (rintro rfl; exact absurd (hd _ List.mem_cons_self) (by decide))
  unfold parseAbsolute at h
  dsimp only at h
  split at h
  case h_1 =>
    -- a file without slashes has no host
    have hnone : Family.file.isSlash d = false := by
      simp [Family.isSlash, hslash]
    unfold parseFile at h
    rw [hmain, List.cons_append] at h
    simp only [hnone] at h
    cases h
    intro hhost
    cases hhost
  case h_2 hweb =>
    have hdrop : (d :: more ++ path).dropWhile (fun c => c == '/' || c == '\\') =
        d :: more ++ path := by
      simp [hslash]
    rw [hmain, hdrop] at h
    exact host_of_digits hweb hne hd hpath h name
  case h_3 =>
    -- an authority of other schemes stands behind two slashes
    unfold parseOther at h
    rw [hmain, List.cons_append] at h
    split at h
    · next heq => exact absurd (List.cons.inj heq).1 hslash.1
    · next heq => exact absurd (List.cons.inj heq).1 hslash.1
    · cases h
      intro hhost
      cases hhost

theorem host_of_text {url : Url} (h : Url.parse address.text = .ok url) :
    url.host? ≠ some (.domain address.host) := by
  have hclear := address.clear_chars
  have hhead : ∀ c ∈ (address.behindHost ++ address.path).head?, isSchemeChar c = false := by
    intro c hc
    cases hport : address.behindHost with
    | nil =>
        rw [hport, List.nil_append] at hc
        rw [address.slashed c hc]
        rfl
    | cons colon digits =>
        have hcolon := address.head_behindHost colon (by simp [hport])
        rw [hport, hcolon] at hc
        cases hc
        rfl
  rw [text] at h
  rw [chars, List.append_assoc] at h hclear
  rcases address.cutScheme_text hhead with hcut | ⟨behind, hbehind, hcut⟩
  · -- no scheme, and no base that the text could be relative to
    rw [parse_without_scheme hcut hclear.solid] at h
    cases h
  · rw [hbehind] at h hcut hclear
    rw [parse_of_scheme hcut hclear] at h
    have hrest : Clear behind := fun c hc => hclear c (by simp [hc])
    -- the colon is that of the port, for a path begins with a slash
    unfold behindHost at hbehind
    split at hbehind
    · next digits hport =>
        obtain ⟨hne, hdigits⟩ := address.isDigit_of_port hport
        obtain ⟨-, rfl⟩ := List.cons.inj hbehind
        have hmain : Tail.main ⟨digits ++ address.path, none, none⟩ = digits ++ address.path :=
          unbroken_of_solid hrest.solid
        exact host_of_port hne hdigits address.slash_of_path hmain h _
    · rw [List.nil_append] at hbehind
      have hslash := address.slashed ':' (by rw [hbehind]; rfl)
      cases hslash

theorem namesScheme_chars :
    namesScheme address.chars = true ↔ [':', '/', '/'] <:+: address.path := by
  have hslash : '/' ∉ address.host ++ address.behindHost := fun hm =>
    nomatch (address.front_spared hm).1
  have hlast : (address.host ++ address.behindHost).getLast? ≠ some ':' := by
    intro hcolon
    unfold behindHost at hcolon
    split at hcolon
    · next digits hport =>
        obtain ⟨hne, hdigits⟩ := address.isDigit_of_port hport
        obtain ⟨front, last, rfl⟩ := (List.eq_nil_or_concat digits).resolve_left hne
        have hdigit := hdigits last (by simp)
        have hlast : last = ':' := by
          rw [List.concat_eq_append, ← List.cons_append, ← List.append_assoc,
            List.getLast?_concat] at hcolon
          exact Option.some.inj hcolon
        rw [hlast] at hdigit
        cases hdigit
    · rw [List.append_nil] at hcolon
      exact absurd (address.simple ':' (List.mem_of_getLast? hcolon)) (by decide)
  rw [chars, namesScheme_append hslash hlast]
  exact namesScheme_iff address.path

end Unschemed

/-! ## Registries -/

/-- An address is read through the URL that it writes, or that it writes behind
`https://`. -/
theorem parse_eq_ok_iff {written : String} {registry : Address} :
    Address.parse written = .ok registry ↔
      Url.parse (if namesScheme written.toList then written else "https://" ++ written) =
        .ok registry.base := by
  obtain ⟨base, hhost⟩ := registry
  unfold Address.parse
  cases hurl : Url.parse (if namesScheme written.toList then written else "https://" ++ written) with
  | error fault => simp
  | ok url =>
      dsimp only
      split
      · simp
      · next hnone =>
          constructor
          · intro heq
            cases heq
          · intro heq
            cases heq
            exact absurd hhost hnone

/-- The scheme of an address can be left out just if its path holds no mark of one:
with `https://` in front it is always that of a registry at its host, and without
it of the same registry, or of none at this host. -/
theorem scheme_left_out_iff (address : Unschemed) : ∃ registry,
    Address.parse ("https://" ++ address.text) = .ok registry ∧
      registry.base.scheme = "https".toList ∧
      registry.base.host? = some (.domain address.host) ∧
      (Address.parse address.text = .ok registry ↔ ¬[':', '/', '/'] <:+: address.path) ∧
      ∀ other, [':', '/', '/'] <:+: address.path → Address.parse address.text = .ok other →
        other.base.host? ≠ some (.domain address.host) := by
  obtain ⟨port?, hurl⟩ := address.parse_https
  have hnamed : namesScheme ("https://" ++ address.text).toList = true :=
    (namesScheme_iff _).mpr ⟨"https".toList, address.chars, by simp [Unschemed.text]⟩
  have hmark : namesScheme address.text.toList = true ↔ [':', '/', '/'] <:+: address.path := by
    rw [Unschemed.text, String.toList_ofList]
    exact address.namesScheme_chars
  have hother (other : Address) (hpath : [':', '/', '/'] <:+: address.path)
      (hparse : Address.parse address.text = .ok other) :
      other.base.host? ≠ some (.domain address.host) := by
    rw [parse_eq_ok_iff, if_pos (hmark.mpr hpath)] at hparse
    exact address.host_of_text hparse
  refine ⟨⟨address.url port?, rfl⟩, ?_, rfl, rfl, ?_, hother⟩
  · rw [parse_eq_ok_iff, if_pos hnamed]
    exact hurl
  · constructor
    · exact fun hparse hpath => hother _ hpath hparse rfl
    · intro hpath
      rw [parse_eq_ok_iff, if_neg fun hnames => hpath (hmark.mp hnames)]
      exact hurl

/-- With the mark of a scheme in its path an address is refused, although it is one with
`https://` in front. -/
theorem scheme_not_left_out : ∃ address : Unschemed,
    address.text = "registry.example.com/a://b" ∧
      Address.parse address.text = .error (.malformed "relative URL without a base") ∧
      ∃ registry, Address.parse ("https://" ++ address.text) = .ok registry ∧
        registry.base.text = "https://registry.example.com/a://b" := by
  let address : Unschemed :=
    { host := "registry.example.com".toList
      path := "/a://b".toList
      simple := List.all_eq_true.mp (by decide)
      labelled := by decide
      top := by
        rintro label ⟨⟩
        exact List.all_eq_true.mp (by decide)
      numbered := by rintro digits ⟨⟩
      slashed := by
        rintro c ⟨⟩
        rfl
      plain := List.all_eq_true.mp (by decide) }
  have hnames : namesScheme address.text.toList = true := by decide +kernel
  have hurl : Url.parse address.text = .error .relativeWithoutBase :=
    parse_without_scheme (by decide) address.clear_chars.solid
  have hrefused : Address.parse address.text =
      .error (.malformed "relative URL without a base") := by
    unfold Address.parse
    rw [if_pos hnames, hurl]
    rfl
  exact ⟨address, rfl, hrefused, ⟨address.url none, rfl⟩, Except.eq_ok_of_toOption (by decide +kernel),
    by decide +kernel⟩

end OciBlobs.Registry
