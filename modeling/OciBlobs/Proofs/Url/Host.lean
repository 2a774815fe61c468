/-
# `Proofs.Url.Host` — hosts from their own text

A host of a special scheme that was read from any text is settled
(`settled_of_parse`): a domain is a name in ASCII by then, and an address has its
canonical text.  It is read once more from its own text, unless it has a label with
more digits than are read (`Fits`); then its text is that of no host.  There is no
character in such a text that ends a host, but for the colons that an address in
brackets holds (`Settled.shape`).
-/
import Mathlib.Data.List.Basic
import OciBlobs.Proofs.Url.Host.Domain
import OciBlobs.Proofs.Url.Host.Ipv6
import OciBlobs.Proofs.Url.Percent

namespace OciBlobs.Url.Host

variable {text name : List Char} {host : Host} {c : Char}

/-! ## Texts without forbidden characters -/

/-- Every character can be part of a domain. -/
def Plain (text : List Char) : Prop :=
  ∀ c ∈ text, forbiddenInDomain c = false

/-- There are no marks around which a host is cut. -/
def Bare (text : List Char) : Prop :=
  ∀ c ∈ text, c ≠ ':' ∧ c ≠ '[' ∧ c ≠ ']'

/-- Brackets around colons and characters of a domain. -/
def Enclosed (text : List Char) : Prop :=
  ∃ inner, text = '[' :: (inner ++ [']']) ∧ ∀ c ∈ inner, c = ':' ∨ forbiddenInDomain c = false

theorem plain_of_all (h : text.all (fun c => !forbiddenInDomain c) = true) : Plain text := by
  intro c hc
  have hc := List.all_eq_true.mp h c hc
  rwa [Bool.not_eq_true'] at hc

theorem toNat_lt_of_domain (h : forbiddenInDomain c = false) : c.toNat < 0x7F := by
  simp only [forbiddenInDomain, Bool.or_eq_false_iff, decide_eq_false_iff_not] at h
  omega

theorem Plain.bare (h : Plain text) : Bare text := by
  intro c hc
  have hplain := h c hc
  refine ⟨?_, ?_, ?_⟩ <;>
    · rintro rfl
      cases hplain

theorem Plain.small (h : Plain text) (hlower : text.map Char.toLower = text) : Small text := by
  intro c hc
  have hself : text.map Char.toLower = text.map id := hlower.trans (List.map_id text).symm
  exact ⟨Nat.lt_succ_of_lt (toNat_lt_of_domain (h c hc)), List.map_inj_left.mp hself c hc⟩

theorem Small.toLower (h : Small text) : text.map Char.toLower = text :=
  (List.map_congr_left fun c hc => (h c hc).2).trans (List.map_id text)

/-- What has nothing in it that domains do not have is put into ASCII as it is
written. -/
theorem parse_of_plain (h : Plain text) :
    parse text = match toAscii? text with
      | none => .error .invalidDomain
      | some name => ofName name := by
  have hhead : text.head? ≠ some '[' := by
    intro hh
    have hc := h '[' (List.mem_of_head? hh)
    cases hc
  have hpercent : '%' ∉ text := by
    intro hm
    have hc := h '%' hm
    cases hc
  have hdecoded : (Utf8.decode? (decode text)).bind toAscii? = toAscii? text := by
    rw [decode_of_not_mem hpercent, Utf8.decode_encode, Option.bind_some]
  cases hname : toAscii? text with
  | none => rw [parse, if_neg hhead, hdecoded, hname]
  | some name => rw [parse, if_neg hhead, hdecoded, hname]

theorem ofName_plain (h : Plain name) (hne : name ≠ []) :
    ofName name =
      if Ipv4.endsInNumber name then
        match Ipv4.parse? name with
        | some address => .ok (.ipv4 address)
        | none => .error .invalidIpv4
      else .ok (.domain name) := by
  have hany : name.any forbiddenInDomain = false := by
    rw [List.any_eq_false]
    intro c hc
    rw [h c hc]
    nofun
  have hempty : name.isEmpty = false := by simpa using hne
  rw [ofName, hany, hempty]
  rfl

theorem parse_plain (h : Plain text) (hlower : text.map Char.toLower = text)
    (hne : text ≠ []) (hlabels : isInternational text = true) :
    parse text =
      if Ipv4.endsInNumber text then
        match Ipv4.parse? text with
        | some address => .ok (.ipv4 address)
        | none => .error .invalidIpv4
      else .ok (.domain text) := by
  rw [parse_of_plain h, toAscii_of_small (h.small hlower), if_pos hlabels]
  exact ofName_plain h hne

/-! ## Small letters, digits and points -/

theorem toNat_lt_of_isAlphanum (h : c.isAlphanum = true) : c.toNat < 0x7F := by
  delta Char.isAlphanum Char.isAlpha Char.isUpper Char.isLower Char.isDigit at h
  simp only [Bool.or_eq_true, Bool.and_eq_true, decide_eq_true_eq, UInt32.le_iff_toNat_le] at h
  have hupper : 'Z'.val.toNat < 0x7F := by decide
  have hlower : 'z'.val.toNat < 0x7F := by decide
  have hdigit : '9'.val.toNat < 0x7F := by decide
  rcases h with ((h | h) | h)
  · exact Nat.lt_of_le_of_lt h.2 hupper
  · exact Nat.lt_of_le_of_lt h.2 hlower
  · exact Nat.lt_of_le_of_lt h.2 hdigit

theorem isAlphanum_of_isLower (h : c.isLower = true) : c.isAlphanum = true := by
  change ((c.isUpper || c.isLower) || c.isDigit) = true
  simp [h]

theorem isAlphanum_of_isDigit (h : c.isDigit = true) : c.isAlphanum = true := by
  change ((c.isUpper || c.isLower) || c.isDigit) = true
  simp [h]

/-- The characters of hosts that are written as they are. -/
def isSimpleChar (c : Char) : Bool :=
  c.isLower || c.isDigit || c == '.'

/-- Small letters, digits and points, as the text of an IPv4 address or of a name
without hyphens. -/
def Simple (text : List Char) : Prop :=
  ∀ c ∈ text, isSimpleChar c = true

theorem toNat_lt_of_simple (h : isSimpleChar c = true) : c.toNat < 0x7F := by
  simp only [isSimpleChar, Bool.or_eq_true, beq_iff_eq] at h
  rcases h with (h | h) | rfl
  · exact toNat_lt_of_isAlphanum (isAlphanum_of_isLower h)
  · exact toNat_lt_of_isAlphanum (isAlphanum_of_isDigit h)
  · decide

/-- Such a character is part of domains, as it is, and it has no direction that
turns a label. -/
theorem simple_char (h : isSimpleChar c = true) :
    forbiddenInDomain c = false ∧ c.toLower = c ∧ c ≠ '-' ∧ Direction.of c ≠ .leftward ∧
      Direction.of c ≠ .arabicNumber :=
  forall_of_lt (P := fun c => isSimpleChar c = true →
      forbiddenInDomain c = false ∧ c.toLower = c ∧ c ≠ '-' ∧ Direction.of c ≠ .leftward ∧
        Direction.of c ≠ .arabicNumber)
    (by decide) (toNat_lt_of_simple h) h

theorem simple_of_isDigit (h : c.isDigit = true) : isSimpleChar c = true := by
  simp [isSimpleChar, h]

theorem Simple.plain (h : Simple text) : Plain text :=
  fun c hc => (simple_char (h c hc)).1

theorem Simple.toLower (h : Simple text) : text.map Char.toLower = text :=
  (List.map_congr_left fun c hc => (simple_char (h c hc)).2.1).trans (List.map_id text)

theorem Simple.small (h : Simple text) : Small text :=
  h.plain.small h.toLower

theorem Simple.read (h : Simple text) : Label.read? text = some text := by
  have hencoded : Label.encoded? text = none := by
    unfold Label.encoded?
    split
    · exact absurd rfl (simple_char (h '-' (by simp))).2.2.1
    · rfl
  rw [Label.read_of_small h.small, hencoded]

theorem mapM_read {labels : List (List Char)} (h : ∀ label ∈ labels, Simple label) :
    labels.mapM Label.read? = some labels := by
  induction labels with
  | nil => rfl
  | cons label rest ih =>
      rw [List.mapM_cons, (h label List.mem_cons_self).read,
        ih fun other hm => h other (List.mem_cons_of_mem _ hm)]
      rfl

/-- A name is one of a domain if its labels are read as themselves and none of its
characters has a direction that turns a label. -/
theorem isInternational_of_read
    (hread : (Text.cutAt '.' text).mapM Label.read? = some (Text.cutAt '.' text))
    (h : ∀ c ∈ text, Direction.of c ≠ .leftward ∧ Direction.of c ≠ .arabicNumber) :
    isInternational text = true := by
  have hturns : ((Text.cutAt '.' text).any fun label => label.any fun c =>
      Direction.of c == .leftward || Direction.of c == .arabicNumber) = false := by
    rw [List.any_eq_false]
    intro label hl
    rw [Bool.not_eq_true, List.any_eq_false]
    intro c hc
    have hchar := h c (Text.mem_of_cutAt hl hc).2
    simp [hchar.1, hchar.2]
  rw [isInternational, hread, Option.any_some, Direction.agree]
  simp only [hturns]
  rfl

theorem Simple.isInternational (h : Simple text) : isInternational text = true :=
  isInternational_of_read
    (mapM_read fun _ hl c hc => h c (Text.mem_of_cutAt hl hc).2)
    fun c hc => (simple_char (h c hc)).2.2.2

theorem Simple.parse (h : Simple text) (hne : text ≠ []) :
    parse text =
      if Ipv4.endsInNumber text then
        match Ipv4.parse? text with
        | some address => .ok (.ipv4 address)
        | none => .error .invalidIpv4
      else .ok (.domain text) :=
  parse_plain h.plain h.toLower hne h.isInternational

theorem simple_render (address : Nat) : Simple (Ipv4.render address) := by
  intro c hc
  rcases Ipv4.mem_render hc with hdigit | rfl
  · exact simple_of_isDigit hdigit
  · rfl

theorem render_ipv4_ne_nil (address : Nat) : Ipv4.render address ≠ [] := by
  simp [Ipv4.render]

/-! ## Hosts -/

/-- Whether every label of a host has no more digits than are read. -/
def fits : Host → Bool
  | .domain name => (Text.cutAt '.' name).all Label.fits
  | _ => true

/-- A host of a special scheme as reading leaves it. -/
structure Settled (host : Host) : Prop where
  parses : parse host.render = if host.fits then .ok host else .error .invalidDomain
  shape : Plain host.render ∨ Enclosed host.render
  render_ne_nil : host.render ≠ []

theorem settled_ipv4 {address : Nat} (h : address < 0x100000000) : Settled (.ipv4 address) := by
  have hsimple := simple_render address
  refine ⟨?_, .inl hsimple.plain, render_ipv4_ne_nil address⟩
  rw [render, hsimple.parse (render_ipv4_ne_nil address), Ipv4.endsInNumber_render,
    Ipv4.parse_render h]
  rfl

theorem settled_ipv6 {pieces : List Nat} (hlength : pieces.length = 8)
    (h : ∀ piece ∈ pieces, piece < 0x10000) : Settled (.ipv6 pieces) := by
  have hne : pieces ≠ [] := by
    rintro rfl
    cases hlength
  refine ⟨?_, .inr ⟨Ipv6.render pieces, rfl, ?_⟩, List.cons_ne_nil _ _⟩
  · have hlast : ('[' :: (Ipv6.render pieces ++ [']'])).getLast? = some ']' := by
      rw [← List.cons_append, List.getLast?_concat]
    rw [render, parse, List.head?_cons, if_pos rfl, bracketed, if_pos hlast, List.drop_one,
      List.tail_cons, List.dropLast_concat, Ipv6.parse_render hlength h]
    rfl
  · intro c hc
    rcases Ipv6.mem_render hne hc with rfl | ⟨piece, hp⟩
    · exact .inl rfl
    · refine .inr ?_
      have hplain : ∀ d < 16, forbiddenInDomain (Nat.digitChar d) = false := by decide
      obtain ⟨d, hd, rfl⟩ := Text.mem_toDigits (by decide) hp
      exact hplain d hd

theorem settled_domain (hname : toAscii? text = some name) (h : Plain name) (hne : name ≠ [])
    (hnumber : Ipv4.endsInNumber name = false) : Settled (.domain name) := by
  refine ⟨?_, .inl h, hne⟩
  rw [render, parse_of_plain h, toAscii_again hname, fits]
  cases (Text.cutAt '.' name).all Label.fits
  case false => rfl
  case true => exact (ofName_plain h hne).trans (if_neg (by simp [hnumber]))

theorem settled_of_ofName (hname : toAscii? text = some name) (h : ofName name = .ok host) :
    Settled host := by
  unfold ofName at h
  split at h
  · cases h
  case isFalse hany =>
    have hplain : Plain name := by
      intro c hc
      rw [Bool.not_eq_true, List.any_eq_false] at hany
      simpa using hany c hc
    split at h
    · cases h
    case isFalse hne =>
      split at h
      · split at h
        case h_1 address ha =>
          cases h
          exact settled_ipv4 (Ipv4.parse_lt ha)
        case h_2 => cases h
      case isFalse hnumber =>
        cases h
        exact settled_domain hname hplain (by simpa using hne) (by simpa using hnumber)

/-- What was read as a host of a special scheme is settled. -/
theorem settled_of_parse (h : parse text = .ok host) : Settled host := by
  unfold parse at h
  split at h
  · unfold bracketed at h
    split at h
    · split at h
      case h_1 pieces hp =>
        cases h
        exact settled_ipv6 (Ipv6.parse_spec hp).1 (Ipv6.parse_spec hp).2
      case h_2 => cases h
    · cases h
  · split at h
    · cases h
    case h_2 name hname =>
      obtain ⟨decoded, -, hascii⟩ := Option.bind_eq_some_iff.mp hname
      exact settled_of_ofName hascii h

end OciBlobs.Url.Host
