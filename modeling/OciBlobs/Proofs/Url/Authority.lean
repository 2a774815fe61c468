/-
# `Proofs.Url.Authority` — authorities from their own text

The text of an authority has its parts between marks that no other part holds:
names are encoded, a host has colons only within brackets, and a port consists
of digits.  So an authority that was read is read as itself again
(`parseAuthority_render`).

    takeWhile_front    a text up to its mark
    cutHost_render     where a host ends
    cutUserinfo_user   where a user information ends
-/
import Mathlib.Data.List.TakeWhile
import OciBlobs.Proofs.Url.Host
import OciBlobs.Url.Parser

/-! ## Results of several parts -/

namespace Except

variable {ε α β : Type} {b : β}

theorem bind_eq_ok {first : Except ε α} {next : α → Except ε β} (h : first.bind next = .ok b) :
    ∃ a, first = .ok a ∧ next a = .ok b := by
  cases first with
  | ok a => exact ⟨a, rfl, h⟩
  | error fault => cases h

theorem map_eq_ok {first : Except ε α} {f : α → β} (h : first.map f = .ok b) :
    ∃ a, first = .ok a ∧ f a = b := by
  cases first with
  | ok a =>
      cases h
      exact ⟨a, rfl, rfl⟩
  | error fault => cases h

theorem eq_ok_of_toOption {first : Except ε α} {a : α} (h : first.toOption = some a) :
    first = .ok a := by
  cases first with
  | ok other =>
      cases h
      rfl
  | error fault => cases h

theorem bind_eq_error {first : Except ε α} {next : α → Except ε β} {e : ε}
    (h : first.bind next = .error e) :
    first = .error e ∨ ∃ a, first = .ok a ∧ next a = .error e := by
  cases first with
  | ok a => exact .inr ⟨a, rfl, h⟩
  | error fault =>
      cases h
      exact .inl rfl

theorem map_eq_error {first : Except ε α} {f : α → β} {e : ε} (h : first.map f = .error e) :
    first = .error e := by
  cases first with
  | ok a => cases h
  | error fault =>
      cases h
      rfl

end Except

namespace OciBlobs.Url

/-! ## Texts up to a mark -/

section
variable {p : Char → Bool} {front rest : List Char}

theorem takeWhile_front (hf : ∀ c ∈ front, p c = true) (hr : ∀ c ∈ rest.head?, p c = false) :
    (front ++ rest).takeWhile p = front := by
  rw [List.takeWhile_append_of_pos hf]
  cases rest with
  | nil => exact List.append_nil front
  | cons c rest => rw [List.takeWhile_cons_of_neg (by simp [hr c rfl]), List.append_nil]

theorem dropWhile_front (hf : ∀ c ∈ front, p c = true) (hr : ∀ c ∈ rest.head?, p c = false) :
    (front ++ rest).dropWhile p = rest := by
  rw [List.dropWhile_append_of_pos hf]
  cases rest with
  | nil => rfl
  | cons c rest => exact List.dropWhile_cons_of_neg (by simp [hr c rfl])

end

/-! ## Ports -/

/-- The text of a port behind a host. -/
def renderPort : Option Nat → List Char
  | some port => ':' :: Ipv4.decimal port
  | none => []

/-- A port that reading keeps for a scheme. -/
def KeepsPort (scheme : List Char) (port? : Option Nat) : Prop :=
  ∀ port, port? = some port → port ≤ 65535 ∧ usualPort? scheme ≠ some port

variable {scheme text : List Char} {port? : Option Nat} {host : Host} {authority : Authority}

theorem parsePort_render (h : KeepsPort scheme port?) :
    parsePort scheme (renderPort port?) = .ok port? := by
  cases port? with
  | none => rfl
  | some port =>
      obtain ⟨hbound, hunusual⟩ := h port rfl
      have hdigits : (Ipv4.decimal port).all Char.isDigit = true :=
        List.all_eq_true.mpr fun _ => Ipv4.isDigit_of_decimal
      have hempty : (Ipv4.decimal port).isEmpty = false := by simp [Ipv4.decimal_ne_nil]
      have hvalue : Ipv4.ofDigits? 10 (Ipv4.decimal port) = some port := by
        rw [Ipv4.decimal_eq]
        exact Ipv4.ofDigits_toDigits (by decide) (by decide) port
      have hfits : ¬65535 < port := Nat.not_lt.mpr hbound
      simp [renderPort, parsePort, hdigits, hempty, hvalue, hfits, hunusual]

theorem keepsPort_of_parsePort (h : parsePort scheme text = .ok port?) :
    KeepsPort scheme port? := by
  rintro port rfl
  unfold parsePort at h
  split at h
  · cases h
  · split at h
    · cases h
    split at h
    · cases h
    split at h
    · split at h
      · cases h
      · split at h
        · cases h
        case isFalse hbound hunusual =>
          cases h
          exact ⟨Nat.le_of_not_lt hbound, hunusual⟩
    · cases h
  · cases h

theorem head_renderPort : ∀ c ∈ (renderPort port?).head?, c = ':' := by
  cases port? with
  | none => nofun
  | some port => rintro c ⟨⟩; rfl

/-! ## Hosts -/

theorem cutHost_behind (h : ∀ c ∈ text.head?, c = ':') : cutHost false text = ([], text) := by
  cases text with
  | nil => rfl
  | cons c rest => rw [cutHost, if_pos ⟨h c rfl, rfl⟩]

theorem cutHost_bare (h : Host.Bare text) {behind : List Char}
    (hb : ∀ c ∈ behind.head?, c = ':') : cutHost false (text ++ behind) = (text, behind) := by
  induction text with
  | nil => exact cutHost_behind hb
  | cons c rest ih =>
      obtain ⟨hcolon, hopen, hclose⟩ := h c List.mem_cons_self
      rw [List.cons_append, cutHost, if_neg (fun h => hcolon h.1), if_neg hopen, if_neg hclose,
        ih fun d hd => h d (List.mem_cons_of_mem _ hd)]

theorem cutHost_inside {inner behind : List Char}
    (hi : ∀ c ∈ inner, c = ':' ∨ Host.forbiddenInDomain c = false)
    (hb : ∀ c ∈ behind.head?, c = ':') :
    cutHost true (inner ++ ']' :: behind) = (inner ++ [']'], behind) := by
  induction inner with
  | nil => simp [cutHost, cutHost_behind hb]
  | cons c rest ih =>
      have hmarks : c ≠ '[' ∧ c ≠ ']' := by
        rcases hi c List.mem_cons_self with rfl | hc
        · decide
        · constructor <;> (rintro rfl; cases hc)
      rw [List.cons_append, cutHost, if_neg (by simp), if_neg hmarks.1, if_neg hmarks.2,
        ih fun d hd => hi d (List.mem_cons_of_mem _ hd)]
      rfl

theorem cutHost_render (h : host.Settled) {behind : List Char}
    (hb : ∀ c ∈ behind.head?, c = ':') :
    cutHost false (host.render ++ behind) = (host.render, behind) := by
  rcases h.shape with hplain | ⟨inner, hrender, hinner⟩
  · exact cutHost_bare hplain.bare hb
  · rw [hrender, List.cons_append, cutHost, if_neg (by decide), if_pos rfl, List.append_assoc]
    exact congrArg (fun cut => ('[' :: cut.1, cut.2)) (cutHost_inside hinner hb)

/-! ## Names -/

/-- Username and password without their at-sign. -/
def Authority.names (authority : Authority) : List Char :=
  authority.username
    ++ (if authority.password.isEmpty then [] else ':' :: authority.password)

variable {user behind : List Char}

theorem cutUserinfo_user (h : '@' ∉ behind) :
    cutUserinfo (user ++ '@' :: behind) = (some user, behind) := by
  have hreverse : (user ++ '@' :: behind).reverse = behind.reverse ++ '@' :: user.reverse := by
    rw [List.reverse_append, List.reverse_cons, List.append_assoc, List.singleton_append]
  have hfront : ∀ c ∈ behind.reverse, (c != '@') = true := by
    intro c hc
    rw [bne_iff_ne]
    rintro rfl
    exact h (List.mem_reverse.mp hc)
  have hmark : ∀ c ∈ ('@' :: user.reverse).head?, (c != '@') = false := by
    rintro c ⟨⟩
    rfl
  simp only [cutUserinfo]
  rw [hreverse, takeWhile_front hfront hmark, dropWhile_front hfront hmark]
  simp only [List.reverse_reverse]

theorem cutUserinfo_of_not_mem (h : '@' ∉ text) : cutUserinfo text = (none, text) := by
  have hfront : ∀ c ∈ text.reverse, (c != '@') = true := by
    intro c hc
    rw [bne_iff_ne]
    rintro rfl
    exact h (List.mem_reverse.mp hc)
  simp only [cutUserinfo, List.takeWhile_eq_self_iff.mpr hfront,
    List.dropWhile_eq_nil_iff.mpr hfront, List.reverse_reverse]

theorem kept_parseUserinfo (text : List Char) :
    Kept inUserinfoSet (parseUserinfo text).1 ∧ Kept inUserinfoSet (parseUserinfo text).2 :=
  ⟨kept_encode sparesEscapes_inUserinfoSet _, kept_encode sparesEscapes_inUserinfoSet _⟩

theorem parseUserinfo_names (hu : Kept inUserinfoSet authority.username)
    (hp : Kept inUserinfoSet authority.password) :
    parseUserinfo authority.names = (authority.username, authority.password) := by
  have hfront : ∀ c ∈ authority.username, (c != ':') = true := by
    intro c hc
    rw [bne_iff_ne]
    rintro rfl
    exact absurd (hu ':' hc).1 (by decide)
  have hmark : ∀ c ∈ (if authority.password.isEmpty then []
      else ':' :: authority.password).head?, (c != ':') = false := by
    split
    · nofun
    · rintro c ⟨⟩
      rfl
  rw [parseUserinfo, Authority.names, takeWhile_front hfront hmark, dropWhile_front hfront hmark,
    encode_eq_self hu]
  cases hpassword : authority.password with
  | nil => rfl
  | cons c rest =>
      rw [hpassword] at hp
      exact congrArg (Prod.mk _) (encode_eq_self hp)

/-! ## Authorities -/

/-- An authority of a special scheme as reading leaves it. -/
structure Authority.Settled (scheme : List Char) (authority : Authority) : Prop where
  username : Kept inUserinfoSet authority.username
  password : Kept inUserinfoSet authority.password
  host : ∃ host, authority.host = some host ∧ host.Settled
  port : KeepsPort scheme authority.port

/-- Host and port of a special scheme decide whether an authority can be read. -/
theorem parseAuthority_special (hs : (familyOf scheme).isSpecial = true) (text : List Char)
    (ended : Bool) :
    parseAuthority scheme text ended =
      if (cutUserinfo text).1 = some [] ∧ (cutUserinfo text).2 = [] ∧ ended = false then
        .error .emptyHost
      else if (cutHost false (cutUserinfo text).2).1.isEmpty then .error .emptyHost
      else
        (Host.parse (cutHost false (cutUserinfo text).2).1).bind fun host =>
          (parsePort scheme (cutHost false (cutUserinfo text).2).2).bind fun port? =>
            .ok
              { username := (parseUserinfo ((cutUserinfo text).1.getD [])).1
                password := (parseUserinfo ((cutUserinfo text).1.getD [])).2
                host := some host
                port := port? } := by
  unfold parseAuthority
  dsimp only
  rw [if_pos hs]
  split
  · rfl
  split
  · rfl
  · cases Host.parse (cutHost false (cutUserinfo text).2).1 with
    | error fault => rfl
    | ok host => rfl

/-- What was read as an authority of a special scheme is settled. -/
theorem Authority.settled_of_parse (hs : (familyOf scheme).isSpecial = true) {ended : Bool}
    (h : parseAuthority scheme text ended = .ok authority) : authority.Settled scheme := by
  rw [parseAuthority_special hs] at h
  split at h
  · cases h
  split at h
  · cases h
  obtain ⟨host, hhost, h⟩ := Except.bind_eq_ok h
  obtain ⟨port?, hport, h⟩ := Except.bind_eq_ok h
  cases h
  exact ⟨(kept_parseUserinfo _).1, (kept_parseUserinfo _).2,
    ⟨host, rfl, Host.settled_of_parse hhost⟩, keepsPort_of_parsePort hport⟩

/-- Characters of an authority: they end neither it nor the path. -/
def inAuthority (c : Char) : Bool :=
  0x20 < c.toNat && !(['/', '\\', '?', '#'].contains c)

theorem inAuthority_of_kept {c : Char} (h : inUserinfoSet c = false ∧ c.toNat < 0x80) :
    inAuthority c = true :=
  Host.forall_of_lt (P := fun c => inUserinfoSet c = false → inAuthority c = true)
    (by decide) h.2 h.1

theorem inAuthority_of_domain {c : Char} (h : Host.forbiddenInDomain c = false) :
    inAuthority c = true :=
  Host.forall_of_lt (P := fun c => Host.forbiddenInDomain c = false → inAuthority c = true)
    (by decide) (Host.toNat_lt_of_domain h) h

/-- A host has none of the marks that stand around it, but for the colon. -/
theorem Host.Settled.mem_render (h : host.Settled) {c : Char} (hc : c ∈ host.render) :
    inAuthority c = true ∧ c ≠ '@' := by
  have hdomain (hc : Host.forbiddenInDomain c = false) : inAuthority c = true ∧ c ≠ '@' :=
    ⟨inAuthority_of_domain hc, by rintro rfl; cases hc⟩
  rcases h.shape with hplain | ⟨inner, hrender, hinner⟩
  · exact hdomain (hplain c hc)
  · rw [hrender, List.mem_cons, List.mem_append, List.mem_singleton] at hc
    rcases hc with rfl | hc | rfl
    · decide
    · rcases hinner c hc with rfl | hc
      · decide
      · exact hdomain hc
    · decide

theorem mem_renderPort {c : Char} (h : c ∈ renderPort port?) :
    inAuthority c = true ∧ c ≠ '@' := by
  cases port? with
  | none => cases h
  | some port =>
      rcases List.mem_cons.mp h with rfl | hc
      · decide
      · have hdomain := (Host.simple_char (Host.simple_of_isDigit (Ipv4.isDigit_of_decimal hc))).1
        exact ⟨inAuthority_of_domain hdomain, by rintro rfl; cases hdomain⟩

theorem Authority.render_eq (hhost : authority.host = some host) :
    authority.render =
      (if authority.names = [] then [] else authority.names ++ ['@']) ++
        (host.render ++ renderPort authority.port) := by
  have huser : authority.userinfo =
      if authority.names = [] then [] else authority.names ++ ['@'] := by
    unfold Authority.userinfo Authority.names
    cases authority.username <;> cases authority.password <;> simp
  rw [Authority.render, huser, hhost, List.append_assoc]
  cases authority.port <;> rfl

theorem Authority.Settled.mem_names (h : authority.Settled scheme) {c : Char}
    (hc : c ∈ authority.names) : inAuthority c = true := by
  rcases List.mem_append.mp hc with hc | hc
  · exact inAuthority_of_kept (h.username c hc)
  · split at hc
    · cases hc
    · rcases List.mem_cons.mp hc with rfl | hc
      · decide
      · exact inAuthority_of_kept (h.password c hc)

theorem Authority.Settled.mem_render (h : authority.Settled scheme) {c : Char}
    (hc : c ∈ authority.render) : inAuthority c = true := by
  obtain ⟨host, hhost, hsettled⟩ := h.host
  rw [Authority.render_eq hhost, List.mem_append, List.mem_append] at hc
  rcases hc with hc | hc | hc
  · split at hc
    · cases hc
    · rcases List.mem_append.mp hc with hc | hc
      · exact h.mem_names hc
      · rw [List.mem_singleton] at hc
        subst hc
        decide
  · exact (hsettled.mem_render hc).1
  · exact (mem_renderPort hc).1

theorem Authority.Settled.cutUserinfo_render (h : authority.Settled scheme)
    (hhost : authority.host = some host) :
    cutUserinfo authority.render =
      (if authority.names = [] then none else some authority.names,
        host.render ++ renderPort authority.port) := by
  obtain ⟨host, rfl, hsettled⟩ : ∃ other, host = other ∧ other.Settled := by
    obtain ⟨other, hother, hsettled⟩ := h.host
    exact ⟨other, Option.some.inj (hhost.symm.trans hother), hsettled⟩
  have hnone : '@' ∉ host.render ++ renderPort authority.port := by
    intro hm
    rcases List.mem_append.mp hm with hm | hm
    · exact (hsettled.mem_render hm).2 rfl
    · exact (mem_renderPort hm).2 rfl
  rw [Authority.render_eq hhost]
  split
  · rw [List.nil_append, cutUserinfo_of_not_mem hnone]
  · rw [List.append_assoc, List.singleton_append, cutUserinfo_user hnone]

/-- An authority that was read is read as itself again, if its host is. -/
theorem Authority.Settled.parse_render (hs : (familyOf scheme).isSpecial = true)
    (h : authority.Settled scheme) (ended : Bool) :
    parseAuthority scheme authority.render ended =
      if authority.host.all Host.fits then .ok authority else .error .invalidDomain := by
  obtain ⟨host, hhost, hsettled⟩ := h.host
  have hne : host.render.isEmpty = false := by simp [hsettled.render_ne_nil]
  have hnames : parseUserinfo
      ((if authority.names = [] then none else some authority.names).getD []) =
        (authority.username, authority.password) := by
    rw [← parseUserinfo_names h.username h.password]
    split
    case isTrue hnil => rw [hnil]; rfl
    case isFalse => rfl
  rw [parseAuthority_special hs, h.cutUserinfo_render hhost,
    cutHost_render hsettled head_renderPort, if_neg, hne, if_neg (by decide), hsettled.parses,
    hnames]
  · rw [hhost, Option.all_some]
    cases host.fits
    case false => rfl
    case true => simp only [if_true, Except.bind, parsePort_render h.port, ← hhost]
  · rintro ⟨hsome, -, -⟩
    split at hsome
    · cases hsome
    case isFalse hnames => exact hnames (Option.some.inj hsome)

/-! ## Authorities without names -/

section
variable {name port : List Char}

theorem cutAuthority_nameless (hn : Host.Bare name) (hp : ∀ c ∈ port.head?, c = ':')
    (hat : '@' ∉ name ++ port) (hback : '\\' ∉ port) :
    cutAuthority (name ++ port) = (name ++ port, []) := by
  have hbehind : port.dropWhile (· != '\\') = [] := by
    refine List.dropWhile_eq_nil_iff.mpr fun c hc => ?_
    rw [bne_iff_ne]
    rintro rfl
    exact hback hc
  simp only [cutAuthority, cutUserinfo_of_not_mem hat, cutHost_bare hn hp, hbehind,
    List.length_nil, Nat.sub_zero, List.take_length]

theorem parseAuthority_nameless (hs : (familyOf scheme).isSpecial = true) (hn : Host.Bare name)
    (hne : name ≠ []) (hp : ∀ c ∈ port.head?, c = ':') (hat : '@' ∉ name ++ port) (ended : Bool) :
    parseAuthority scheme (name ++ port) ended =
      (Host.parse name).bind fun host => (parsePort scheme port).map fun port? =>
        { host := some host, port := port? } := by
  have hempty : name.isEmpty = false := by simpa using hne
  rw [parseAuthority_special hs, cutUserinfo_of_not_mem hat]
  simp only [cutHost_bare hn hp, hempty]
  rw [if_neg (by simp), if_neg (by simp)]
  cases Host.parse name with
  | error fault => rfl
  | ok host => cases parsePort scheme port <;> rfl

end

end OciBlobs.Url
