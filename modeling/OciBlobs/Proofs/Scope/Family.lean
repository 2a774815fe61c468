/-
# `Proofs.Scope.Family` — scopes keep to their history

A family is a run with the scopes that were made in it.  What its scopes say
is told by what was done with them (`checks_follow_history`), and this rests on
how tokens are made:

    a scope of its own     a number that no scope had
    a scope below another  such a number in front of the other's token
    the same scope again   the same token

So scopes have the same token exactly if they share (`shares_iff`), and one
token is at the end of another exactly if cancelling it cancels the other
(`ends_iff`).  `Tells` is what holds of a family and its history after every
deed.
-/
import OciBlobs.Proofs.Caller
import OciBlobs.Proofs.Scope.History

namespace OciBlobs

/-- Scopes, and the run in which they are made and ended. -/
structure Family where
  run : Run
  scopes : List Scope := []

namespace Family

def gain (family : Family) (ended : Outcome Scope × Run) : Family :=
  { run := ended.2
    scopes := match ended.1 with
      | .ok scope => family.scopes ++ [scope]
      | _ => family.scopes }

/-- Does something with a scope; nothing, if no scope has the number. -/
def withScope (family : Family) (number : Nat) (next : Scope → Family) : Family :=
  match family.scopes[number]? with
  | some scope => next scope
  | none => family

def step (family : Family) : Deed → Family
  | .create => family.gain (Scope.create family.run)
  | .fork above => family.withScope above fun scope => family.gain (scope.fork family.run)
  | .copy source => family.withScope source fun scope => family.gain (.ok scope, family.run)
  | .limit source deadline =>
    family.withScope source fun scope =>
      family.gain (.ok (scope.withDeadline deadline), family.run)
  | .limitFor source timeout =>
    family.withScope source fun scope => family.gain (scope.limited timeout family.run)
  | .cancel number =>
    family.withScope number fun scope => { family with run := (scope.cancel family.run).2 }
  | .pass nanos => { family with run := { family.run with now := family.run.now + nanos } }

def ofDeeds (start : Int) (deeds : List Deed) : Family :=
  deeds.foldl step { run := { now := start } }

def token? (family : Family) (number : Nat) : Option Token :=
  family.scopes[number]?.map (·.token)

/-! ## How scopes are made -/

/-- What a scope has from where it comes, given the scopes that were made before
it. -/
inductive Made (scopes : List Scope) (number : Nat) (scope : Scope) : Origin → Prop
  | alone {n : Nat} (token : scope.token = [n])
      (new : ∀ i < number, ∀ other, scopes[i]? = some other → n ∉ other.token) :
      Made scopes number scope .alone
  | below {above n : Nat} {upper : Scope} (earlier : above < number)
      (found : scopes[above]? = some upper) (under : scope.Under upper)
      (token : scope.token = n :: upper.token)
      (new : ∀ i < number, ∀ other, scopes[i]? = some other → n ∉ other.token) :
      Made scopes number scope (.below above)
  | same {source : Nat} {other : Scope} (earlier : source < number)
      (found : scopes[source]? = some other) (under : scope.Under other)
      (token : scope.token = other.token) : Made scopes number scope (.same source)

theorem Made.append {scopes : List Scope} {number : Nat} {scope : Scope} {origin : Origin}
    (h : Made scopes number scope origin) (hn : number ≤ scopes.length) (more : List Scope) :
    Made (scopes ++ more) number scope origin := by
  have hsame (i : Nat) (hi : i < number) : (scopes ++ more)[i]? = scopes[i]? :=
    List.getElem?_append_left (by omega)
  cases h with
  | alone token new =>
      refine .alone token fun i hi other hother => ?_
      exact new i hi other (hsame i hi ▸ hother)
  | below earlier found under token new =>
      refine .below earlier (hsame _ earlier ▸ found) under token fun i hi other hother => ?_
      exact new i hi other (hsame i hi ▸ hother)
  | same earlier found under token =>
      exact .same earlier (hsame _ earlier ▸ found) under token

theorem withDeadline_deadline {scope : Scope} {applied : List Int}
    (h : scope.deadline = applied.min?) (deadline : Int) :
    (scope.withDeadline deadline).deadline = (deadline :: applied).min? := by
  rw [List.min?_cons, ← h]
  cases hd : scope.deadline with
  | none => simp [Scope.withDeadline, hd]
  | some earlier => simp [Scope.withDeadline, hd, Int.min_comm]

/-- What a history tells of a family. -/
structure Tells (history : History) (family : Family) : Prop where
  now : family.run.now = history.now
  length : family.scopes.length = history.entries.length
  made : ∀ {number : Nat} {entry : Descent} {scope : Scope},
    history.entries[number]? = some entry → family.scopes[number]? = some scope →
    Made family.scopes number scope entry.origin ∧ scope.deadline = entry.applied.min?
  /-- The numbers in tokens have all been given out. -/
  fresh : ∀ scope ∈ family.scopes, ∀ n ∈ scope.token, n < family.run.fresh
  /-- What is cancelled are the tokens of the scopes that were. -/
  cancelled : family.run.cancelled.map some = history.cancelled.map family.token?

theorem token?_of_some {family : Family} {number : Nat} {scope : Scope}
    (h : family.scopes[number]? = some scope) : family.token? number = some scope.token := by
  rw [token?, h]
  rfl

theorem token?_append {family : Family} {number : Nat} {token : Token}
    (h : family.token? number = some token) (run : Run) (more : List Scope) :
    ({ run, scopes := family.scopes ++ more } : Family).token? number = some token := by
  obtain ⟨scope, hs, rfl⟩ := Option.map_eq_some_iff.mp h
  obtain ⟨hlt, -⟩ := List.getElem?_eq_some_iff.mp hs
  exact token?_of_some ((List.getElem?_append_left hlt).trans hs)

namespace Tells

variable {history : History} {family : Family}

theorem exists_entry (h : Tells history family) {number : Nat} {scope : Scope}
    (hs : family.scopes[number]? = some scope) :
    ∃ entry, history.entries[number]? = some entry ∧
      Made family.scopes number scope entry.origin ∧ scope.deadline = entry.applied.min? := by
  obtain ⟨hlt, -⟩ := List.getElem?_eq_some_iff.mp hs
  have he := List.getElem?_eq_getElem (h.length ▸ hlt)
  exact ⟨_, he, h.made he hs⟩

theorem exists_scope (h : Tells history family) {number : Nat} {entry : Descent}
    (he : history.entries[number]? = some entry) :
    ∃ scope, family.scopes[number]? = some scope ∧
      Made family.scopes number scope entry.origin ∧ scope.deadline = entry.applied.min? := by
  obtain ⟨hlt, -⟩ := List.getElem?_eq_some_iff.mp he
  have hs := List.getElem?_eq_getElem (h.length ▸ hlt)
  exact ⟨_, hs, h.made he hs⟩

theorem token_of_cancelled (h : Tells history family) {number : Nat}
    (hm : number ∈ history.cancelled) :
    ∃ token ∈ family.run.cancelled, family.token? number = some token := by
  have htoken : family.token? number ∈ family.run.cancelled.map some :=
    h.cancelled ▸ List.mem_map_of_mem hm
  obtain ⟨token, hc, heq⟩ := List.mem_map.mp htoken
  exact ⟨token, hc, heq.symm⟩

theorem cancelled_of_token (h : Tells history family) {token : Token}
    (hc : token ∈ family.run.cancelled) :
    ∃ number ∈ history.cancelled, family.token? number = some token := by
  have htoken : some token ∈ history.cancelled.map family.token? :=
    h.cancelled ▸ List.mem_map_of_mem hc
  exact List.mem_map.mp htoken

theorem fresh_notMem (h : Tells history family) (i : Nat) (other : Scope)
    (ho : family.scopes[i]? = some other) : family.run.fresh ∉ other.token := by
  intro hm
  exact Nat.lt_irrefl _ (h.fresh other (List.mem_of_getElem? ho) _ hm)

theorem gain (h : Tells history family) {after : Run} {entry : Descent} {scope : Scope}
    (hnow : after.now = family.run.now) (hcancelled : after.cancelled = family.run.cancelled)
    (hfresh : family.run.fresh ≤ after.fresh) (hnumbers : ∀ n ∈ scope.token, n < after.fresh)
    (hmade : Made family.scopes family.scopes.length scope entry.origin)
    (hdeadline : scope.deadline = entry.applied.min?) :
    Tells { history with entries := history.entries ++ [entry] }
      { run := after, scopes := family.scopes ++ [scope] } where
  now := hnow.trans h.now
  length := by simp [h.length]
  made := by
    intro number found other hentry hscope
    rcases Nat.lt_trichotomy number family.scopes.length with hlt | rfl | hgt
    · rw [List.getElem?_append_left (h.length ▸ hlt)] at hentry
      rw [List.getElem?_append_left hlt] at hscope
      obtain ⟨hm, hd⟩ := h.made hentry hscope
      exact ⟨hm.append (Nat.le_of_lt hlt) _, hd⟩
    · rw [h.length, List.getElem?_concat_length] at hentry
      rw [List.getElem?_concat_length] at hscope
      cases hentry
      cases hscope
      exact ⟨hmade.append (Nat.le_refl _) _, hdeadline⟩
    · rw [List.getElem?_eq_none (by simp; omega)] at hscope
      cases hscope
  fresh := by
    intro other hm n hn
    rcases List.mem_append.mp hm with hm | hm
    · exact Nat.lt_of_lt_of_le (h.fresh other hm n hn) hfresh
    · cases List.mem_singleton.mp hm
      exact hnumbers n hn
  cancelled := by
    rw [hcancelled, h.cancelled]
    refine List.map_congr_left fun number hm => ?_
    obtain ⟨token, -, htoken⟩ := h.token_of_cancelled hm
    exact htoken.trans (token?_append htoken _ _).symm

theorem derive (h : Tells history family) {number : Nat} {origin : Origin} {own : Option Int}
    {next : Scope → Family}
    (hnext : ∀ {scope : Scope} {entry : Descent}, family.scopes[number]? = some scope →
      scope.deadline = entry.applied.min? →
      Tells { history with entries := history.entries ++ [⟨origin, own.toList ++ entry.applied⟩] }
        (next scope)) :
    Tells (history.derive number origin own) (family.withScope number next) := by
  unfold History.derive withScope
  cases hs : family.scopes[number]? with
  | none =>
      have hlen := List.getElem?_eq_none_iff.mp hs
      rw [List.getElem?_eq_none (h.length ▸ hlen)]
      exact h
  | some scope =>
      obtain ⟨entry, he, -, hd⟩ := h.exists_entry hs
      rw [he]
      exact hnext hs hd

theorem limit (h : Tells history family) {source : Nat} {scope : Scope} {entry : Descent}
    (hs : family.scopes[source]? = some scope) (hd : scope.deadline = entry.applied.min?)
    (deadline : Int) :
    Tells { history with
        entries := history.entries ++ [⟨.same source, deadline :: entry.applied⟩] }
      { family with scopes := family.scopes ++ [scope.withDeadline deadline] } := by
  obtain ⟨hlt, -⟩ := List.getElem?_eq_some_iff.mp hs
  exact h.gain rfl rfl (Nat.le_refl _) (h.fresh scope (List.mem_of_getElem? hs))
    (.same hlt hs (.withDeadline scope deadline) rfl) (withDeadline_deadline hd deadline)

/-- The same scope with a timeout, which needs a time that the clock holds. -/
theorem limitFor (h : Tells history family) (source : Nat) (timeout : Duration) :
    Tells (history.step (.limitFor source timeout)) (family.step (.limitFor source timeout)) := by
  unfold History.step Family.step Scope.limited Scope.withTimeout?
  dsimp only
  rw [h.now]
  by_cases hholds : history.now + timeout.toNanos < Scope.clockLimit * 1000000000
  · simp only [if_pos hholds]
    exact h.derive fun hs hd => h.limit hs hd _
  · simp only [if_neg hholds]
    unfold withScope
    cases family.scopes[source]? with
    | none => exact h
    | some scope => exact h

theorem cancel (h : Tells history family) (number : Nat) :
    Tells (history.step (.cancel number)) (family.step (.cancel number)) := by
  unfold History.step Family.step withScope
  dsimp only
  cases hs : family.scopes[number]? with
  | none =>
      have hlen := List.getElem?_eq_none_iff.mp hs
      rw [if_neg (by rw [← h.length]; omega)]
      exact h
  | some scope =>
      obtain ⟨hlt, -⟩ := List.getElem?_eq_some_iff.mp hs
      rw [if_pos (h.length ▸ hlt)]
      refine ⟨h.now, h.length, h.made, h.fresh, ?_⟩
      show some scope.token :: family.run.cancelled.map some =
        family.token? number :: history.cancelled.map family.token?
      rw [h.cancelled, token?_of_some hs]

/-- What one deed does is told by what it adds to the history. -/
theorem step (h : Tells history family) (deed : Deed) :
    Tells (history.step deed) (family.step deed) := by
  cases deed with
  | create =>
      refine h.gain rfl rfl (Nat.le_succ _) ?_ (.alone rfl fun i _ => h.fresh_notMem i) rfl
      intro n hn
      rw [List.mem_singleton.mp hn]
      exact Nat.lt_succ_self _
  | fork above =>
      refine h.derive fun {scope entry} hs hd => ?_
      obtain ⟨hlt, -⟩ := List.getElem?_eq_some_iff.mp hs
      refine h.gain rfl rfl (Nat.le_succ _) ?_
        (.below hlt hs (.child scope _) rfl fun i _ => h.fresh_notMem i) hd
      intro n hn
      rcases List.mem_cons.mp hn with rfl | hn
      · exact Nat.lt_succ_self _
      · exact Nat.lt_succ_of_lt (h.fresh scope (List.mem_of_getElem? hs) n hn)
  | copy source =>
      refine h.derive fun {scope entry} hs hd => ?_
      obtain ⟨hlt, -⟩ := List.getElem?_eq_some_iff.mp hs
      exact h.gain rfl rfl (Nat.le_refl _) (h.fresh scope (List.mem_of_getElem? hs))
        (.same hlt hs (.refl scope) rfl) hd
  | limit source deadline => exact h.derive fun hs hd => h.limit hs hd deadline
  | limitFor source timeout => exact h.limitFor source timeout
  | cancel number => exact h.cancel number
  | pass nanos =>
      exact ⟨congrArg (· + (nanos : Int)) h.now, h.length, h.made, h.fresh, h.cancelled⟩

/-- What deeds do is told by the history of them. -/
theorem ofDeeds (start : Int) (deeds : List Deed) :
    Tells (.ofDeeds start deeds) (.ofDeeds start deeds) := by
  have hstart : Tells { now := start } { run := { now := start } } :=
    ⟨rfl, rfl, nofun, nofun, rfl⟩
  unfold History.ofDeeds Family.ofDeeds
  generalize ({ now := start } : History) = history at hstart
  generalize ({ run := { now := start } } : Family) = family at hstart
  induction deeds generalizing history family with
  | nil => exact hstart
  | cons deed rest ih => exact ih _ _ (hstart.step deed)

/-! ## Tokens -/

theorem token_of_shares (h : Tells history family) {a b : Nat} (hs : history.Shares a b) :
    family.token? a = family.token? b := by
  induction hs with
  | rel a b hc =>
      obtain ⟨applied, he⟩ := hc
      obtain ⟨scope, hb, hm, -⟩ := h.exists_scope he
      cases hm with
      | same _ found _ token => rw [token?_of_some found, token?_of_some hb, token]
  | refl a => rfl
  | symm a b _ ih => exact ih.symm
  | trans a b c _ _ ih ih' => exact ih.trans ih'

/-- The token of a scope below another is that one's with a number in front. -/
theorem token_of_below (h : Tells history family) {a b : Nat} (hb : history.Below a b) :
    ∃ n token, family.token? a = some token ∧ family.token? b = some (n :: token) := by
  obtain ⟨applied, he⟩ := hb
  obtain ⟨scope, hs, hm, -⟩ := h.exists_scope he
  cases hm with
  | @below _ n upper _ found _ token =>
      refine ⟨n, upper.token, token?_of_some found, ?_⟩
      rw [token?_of_some hs, token]

theorem suffix_of_ends (h : Tells history family) {a b : Nat} (he : history.Ends a b)
    {token : Token} (ht : family.token? b = some token) :
    ∃ upper, family.token? a = some upper ∧ upper <:+ token := by
  induction he generalizing token with
  | refl => exact ⟨token, ht, List.suffix_rfl⟩
  | @tail b c _ hlink ih =>
      rcases hlink with hs | hb
      · rw [← h.token_of_shares hs] at ht
        exact ih ht
      · obtain ⟨n, upper, hupper, hlower⟩ := h.token_of_below hb
        rw [hlower] at ht
        cases ht
        obtain ⟨top, htop, hsuffix⟩ := ih hupper
        exact ⟨top, htop, hsuffix.trans (List.suffix_cons ..)⟩

/-- Where the token of a scope comes from. -/
inductive Comes (history : History) (family : Family) (number : Nat) : Token → Prop
  /-- A number that was new, in front of the token of the scope above, if any. -/
  | first {n : Nat} {rest : Token}
      (new : ∀ i < number, ∀ other, family.token? i = some other → n ∉ other)
      (above : rest = [] ∨
        ∃ above < number, history.Below above number ∧ family.token? above = some rest) :
      Comes history family number (n :: rest)
  | again {source : Nat} {token : Token} (earlier : source < number)
      (copies : history.Copies source number) (found : family.token? source = some token) :
      Comes history family number token

theorem comes (h : Tells history family) {number : Nat} {token : Token}
    (ht : family.token? number = some token) : Comes history family number token := by
  obtain ⟨scope, hs, rfl⟩ := Option.map_eq_some_iff.mp ht
  obtain ⟨⟨origin, applied⟩, he, hm, -⟩ := h.exists_entry hs
  have hnew {n : Nat} (new : ∀ i < number, ∀ other, family.scopes[i]? = some other →
      n ∉ other.token) (i : Nat) (hi : i < number) (other : Token)
      (ho : family.token? i = some other) : n ∉ other := by
    obtain ⟨scope, hscope, rfl⟩ := Option.map_eq_some_iff.mp ho
    exact new i hi scope hscope
  cases hm with
  | alone token new =>
      rw [token]
      exact .first (hnew new) (.inl rfl)
  | @below above n upper earlier found _ token new =>
      rw [token]
      exact .first (hnew new) (.inr ⟨above, earlier, ⟨applied, he⟩, token?_of_some found⟩)
  | @same source other earlier found _ token =>
      rw [token]
      exact .again earlier ⟨applied, he⟩ (token?_of_some found)

/-- Every scope shares with the one for which its token was made, with a number
that no scope before had. -/
theorem maker (h : Tells history family) : ∀ (number : Nat) {token : Token},
    family.token? number = some token →
    ∃ first n rest, token = n :: rest ∧ history.Shares first number ∧
      family.token? first = some token ∧
      ∀ i < first, ∀ other, family.token? i = some other → n ∉ other := by
  intro number
  -- a scope that is made as another has the maker of that one
  induction number using Nat.strongRecOn with
  | ind number ih =>
      intro token ht
      cases h.comes ht with
      | first new above => exact ⟨number, _, _, rfl, Relation.EqvGen.refl number, ht, new⟩
      | again earlier copies found =>
          obtain ⟨first, n, rest, heq, hshares, hfirst, hnew⟩ := ih _ earlier found
          exact ⟨first, n, rest, heq, hshares.trans copies.shares, hfirst, hnew⟩

theorem shares_iff (h : Tells history family) {a b : Nat} {token other : Token}
    (ha : family.token? a = some token) (hb : family.token? b = some other) :
    history.Shares a b ↔ token = other := by
  constructor
  · intro hs
    have heq := h.token_of_shares hs
    rw [ha, hb] at heq
    exact Option.some.inj heq
  · rintro rfl
    obtain ⟨first, n, rest, rfl, hshares, hfirst, hnew⟩ := h.maker a ha
    obtain ⟨first', n', rest', heq, hshares', hfirst', hnew'⟩ := h.maker b hb
    cases heq
    -- the number was new to both, so that neither came before the other
    rcases Nat.lt_trichotomy first first' with hlt | rfl | hlt
    · exact absurd List.mem_cons_self (hnew' first hlt _ hfirst)
    · exact hshares.symm.trans hshares'
    · exact absurd List.mem_cons_self (hnew first' hlt _ hfirst')

theorem ends_of_suffix (h : Tells history family) {a : Nat} {upper : Token}
    (ha : family.token? a = some upper) : ∀ (b : Nat) {token : Token},
      family.token? b = some token → upper <:+ token → history.Ends a b := by
  intro b
  induction b using Nat.strongRecOn with
  | ind b ih =>
      intro token hb hsuffix
      cases h.comes hb with
      | again earlier copies found => exact (ih _ earlier found hsuffix).shares copies.shares
      | @first n rest new above =>
          rcases List.suffix_cons_iff.mp hsuffix with heq | hrest
          · exact ((h.shares_iff ha hb).mpr heq).ends
          · rcases above with rfl | ⟨above, earlier, hbelow, found⟩
            · -- no token is empty
              obtain ⟨_, _, _, rfl, -⟩ := h.maker a ha
              cases List.suffix_nil.mp hrest
            · exact (ih _ earlier found hrest).below hbelow

/-- One token is at the end of another exactly if cancelling the one scope
cancels the other. -/
theorem ends_iff (h : Tells history family) {a b : Nat} {upper token : Token}
    (ha : family.token? a = some upper) (hb : family.token? b = some token) :
    history.Ends a b ↔ upper <:+ token := by
  constructor
  · intro he
    obtain ⟨other, hother, hsuffix⟩ := h.suffix_of_ends he hb
    rw [ha] at hother
    cases hother
    exact hsuffix
  · exact h.ends_of_suffix ha b hb

/-- A token is cancelled exactly if its scope was, itself or by one above. -/
theorem isCancelled_iff (h : Tells history family) {number : Nat} {token : Token}
    (ht : family.token? number = some token) :
    token.isCancelled family.run.cancelled = true ↔ history.IsCancelled number := by
  simp only [Token.isCancelled, List.any_eq_true, List.isSuffixOf_iff_suffix]
  constructor
  · rintro ⟨upper, hc, hsuffix⟩
    obtain ⟨cancelled, hm, hupper⟩ := h.cancelled_of_token hc
    exact ⟨cancelled, hm, (h.ends_iff hupper ht).mpr hsuffix⟩
  · rintro ⟨cancelled, hm, hends⟩
    obtain ⟨upper, hc, hupper⟩ := h.token_of_cancelled hm
    exact ⟨upper, hc, (h.ends_iff hupper ht).mp hends⟩

/-! ## Parents and siblings -/

theorem token_of_parent (h : Tells history family) {parent number : Nat}
    (hp : history.Parent parent number) :
    ∃ n token, family.token? parent = some token ∧ family.token? number = some (n :: token) := by
  obtain ⟨above, below, habove, hbelow, hshares⟩ := hp
  obtain ⟨n, token, hupper, hlower⟩ := h.token_of_below hbelow
  exact ⟨n, token, (h.token_of_shares habove).trans hupper,
    (h.token_of_shares hshares).symm.trans hlower⟩

theorem not_ends_parent (h : Tells history family) {parent number : Nat}
    (hp : history.Parent parent number) : ¬history.Ends number parent := by
  obtain ⟨n, token, hparent, hnumber⟩ := h.token_of_parent hp
  rw [h.ends_iff hnumber hparent]
  intro hsuffix
  have hlength := hsuffix.length_le
  rw [List.length_cons] at hlength
  omega

theorem not_ends_sibling (h : Tells history family) {parent number sibling : Nat}
    (hn : history.Parent parent number) (hs : history.Parent parent sibling)
    (hother : ¬history.Shares number sibling) : ¬history.Ends number sibling := by
  obtain ⟨n, token, hparent, hnumber⟩ := h.token_of_parent hn
  obtain ⟨m, token', hparent', hsibling⟩ := h.token_of_parent hs
  rw [hparent] at hparent'
  cases hparent'
  rw [h.shares_iff hnumber hsibling] at hother
  rw [h.ends_iff hnumber hsibling]
  intro hsuffix
  exact hother (hsuffix.eq_of_length rfl)

/-! ## What scopes say -/

/-- A scope says that it was cancelled if it was, then that its deadline has
come, and otherwise that it goes on. -/
theorem check_iff (h : Tells history family) {number : Nat} {scope : Scope}
    (hs : family.scopes[number]? = some scope) (now : Int) :
    let asked := scope.check { family.run with now }
    asked.2 = { family.run with now } ∧
    (asked.1 = .failed .cancelled ↔ history.IsCancelled number) ∧
    (asked.1 = .failed .deadlineExceeded ↔ ¬history.IsCancelled number ∧
      ∃ time, scope.deadline = some time ∧ time ≤ now) ∧
    (asked.1 = .ok () ↔ ¬history.IsCancelled number ∧
      ∀ time, scope.deadline = some time → now < time) := by
  intro asked
  have hcancelled := h.isCancelled_iff (token?_of_some hs)
  have hover : scope.isOver now = true ↔ ∃ time, scope.deadline = some time ∧ time ≤ now := by
    simp [Scope.isOver, Option.any_eq_true]
  have hgoesOn : scope.isOver now = false ↔ ∀ time, scope.deadline = some time → now < time := by
    simp [Scope.isOver, Option.any_eq_false]
  cases he : scope.endedIn? { family.run with now } with
  | none =>
      obtain ⟨hc, ho⟩ := Scope.endedIn_eq_none.mp he
      have hasked : asked = (.ok (), _) := Scope.check_of_open he
      rw [← hcancelled, ← hover, ← hgoesOn, hasked]
      dsimp only at hc ho
      simp [hc, ho]
  | some failure =>
      have hasked : asked = (.failed failure, _) := Scope.check_of_ended he
      rw [← hcancelled, ← hover, ← hgoesOn, hasked]
      rcases Scope.endedIn_eq_some.mp he with ⟨hc, rfl⟩ | ⟨hc, ho, rfl⟩
      · dsimp only at hc
        simp [hc]
      · dsimp only at hc ho
        simp [hc, ho]

/-- Cancelling a scope makes no difference to those that it does not end. -/
theorem check_cancel (h : Tells history family) {number other : Nat} {scope : Scope}
    (hs : family.scopes[number]? = some scope) (hn : ¬history.Ends other number) (now : Int) :
    (scope.check { (family.step (.cancel other)).run with now }).1 =
      (scope.check { family.run with now }).1 := by
  unfold Family.step withScope
  dsimp only
  cases ho : family.scopes[other]? with
  | none => rfl
  | some cancelled =>
      have hsuffix : cancelled.token.isSuffixOf scope.token = false := by
        rw [Bool.eq_false_iff, ne_eq, List.isSuffixOf_iff_suffix,
          ← h.ends_iff (token?_of_some ho) (token?_of_some hs)]
        exact hn
      have hsame : scope.endedIn? { (cancelled.cancel family.run).2 with now } =
          scope.endedIn? { family.run with now } := by
        show (if (cancelled.token.isSuffixOf scope.token ||
          scope.token.isCancelled family.run.cancelled) = true then _ else _) = _
        rw [hsuffix, Bool.false_or]
        rfl
      simp only [Scope.check, hsame]
      cases scope.endedIn? { family.run with now } <;> rfl

theorem deadline_le (h : Tells history family) {number source : Nat} {scope other : Scope}
    (hs : family.scopes[number]? = some scope) (ho : family.scopes[source]? = some other)
    (hfrom : history.Copies source number ∨ history.Below source number) {time : Int}
    (ht : other.deadline = some time) : ∃ sooner, scope.deadline = some sooner ∧ sooner ≤ time := by
  rcases hfrom with ⟨applied, he⟩ | ⟨applied, he⟩
  · obtain ⟨hm, -⟩ := h.made he hs
    cases hm with
    | same _ found under _ =>
        rw [ho] at found
        cases found
        exact under.deadline time ht
  · obtain ⟨hm, -⟩ := h.made he hs
    cases hm with
    | below _ found under _ _ =>
        rw [ho] at found
        cases found
        exact under.deadline time ht

/-- The deadline of a scope is the least of those that were set on the way to
it. -/
theorem deadline_eq (h : Tells history family) {number : Nat} {scope : Scope}
    (hs : family.scopes[number]? = some scope) :
    scope.deadline = (history.applied number).min? := by
  obtain ⟨entry, he, -, hd⟩ := h.exists_entry hs
  rw [hd, History.applied, he]
  rfl

end Tells

/-! ## Nothing is taken back -/

/-- Scopes stay as they are, and tokens that are cancelled stay so. -/
structure Grows (before after : Family) : Prop where
  scopes : before.scopes <+: after.scopes
  run : before.run.Precedes after.run

theorem Grows.refl (family : Family) : family.Grows family :=
  ⟨List.prefix_rfl, IsPreorder.toRefl.refl family.run⟩

theorem Grows.trans {a b c : Family} (h : a.Grows b) (h' : b.Grows c) : a.Grows c :=
  ⟨h.scopes.trans h'.scopes, h.run.trans h'.run⟩

theorem grows_gain (family : Family) {ended : Outcome Scope × Run}
    (h : family.run.Precedes ended.2) : family.Grows (family.gain ended) := by
  refine ⟨?_, h⟩
  unfold gain
  cases ended.1 with
  | ok scope => exact List.prefix_append ..
  | _ => exact List.prefix_rfl

theorem grows_withScope (family : Family) (number : Nat) {next : Scope → Family}
    (h : ∀ scope, family.Grows (next scope)) : family.Grows (family.withScope number next) := by
  unfold withScope
  cases family.scopes[number]? with
  | none => exact .refl family
  | some scope => exact h scope

theorem grows_step (family : Family) (deed : Deed) : family.Grows (family.step deed) := by
  have hsame : family.run.Precedes family.run := (Grows.refl family).run
  have hnumber : family.run.Precedes { family.run with fresh := family.run.fresh + 1 } :=
    ⟨hsame.now, hsame.cancelled, hsame.handed, hsame.sent, hsame.replies⟩
  cases deed with
  | create => exact family.grows_gain hnumber
  | fork above => exact family.grows_withScope above fun scope => family.grows_gain hnumber
  | copy source => exact family.grows_withScope source fun scope => family.grows_gain hsame
  | limit source deadline =>
      exact family.grows_withScope source fun scope => family.grows_gain hsame
  | limitFor source timeout =>
      refine family.grows_withScope source fun scope => family.grows_gain ?_
      unfold Scope.limited
      split
      · exact hsame
      · exact hsame
  | cancel number =>
      refine family.grows_withScope number fun scope => ⟨List.prefix_rfl, ?_⟩
      exact (Scope.idles_cancelToken scope.token family.run).precedes
  | pass nanos =>
      exact ⟨List.prefix_rfl, Int.le_add_of_nonneg_right (Int.natCast_nonneg nanos),
        hsame.cancelled, hsame.handed, hsame.sent, hsame.replies⟩

theorem grows_ofDeeds (start : Int) (deeds more : List Deed) :
    (ofDeeds start deeds).Grows (ofDeeds start (deeds ++ more)) := by
  unfold ofDeeds
  rw [List.foldl_append]
  generalize deeds.foldl step _ = family
  induction more generalizing family with
  | nil => exact .refl family
  | cons deed rest ih => exact (family.grows_step deed).trans (ih _)

/-- Scopes say what follows from the deeds that were done, in whatever order.

A scope was cancelled if that was done to it, to one that shares with it, or to
one above them, before or after it was made.  Its deadline is the least of all
that were set on the way to it, in whatever order, and so no later than that of
the scope it was made from.  Nothing that is done later changes the scope, and
if it was cancelled it stays so.  Cancelling makes no difference to a scope that
it does not end, such as the parent and the siblings of the one cancelled. -/
theorem checks_follow_history (start : Int) (deeds : List Deed) :
    let family := ofDeeds start deeds
    let history := History.ofDeeds start deeds
    family.scopes.length = history.entries.length ∧
    ∀ number scope, family.scopes[number]? = some scope →
      (∀ now, let asked := scope.check { family.run with now }
        asked.2 = { family.run with now } ∧
        (asked.1 = .failed .cancelled ↔ history.IsCancelled number) ∧
        (asked.1 = .failed .deadlineExceeded ↔ ¬history.IsCancelled number ∧
          ∃ time, scope.deadline = some time ∧ time ≤ now) ∧
        (asked.1 = .ok () ↔ ¬history.IsCancelled number ∧
          ∀ time, scope.deadline = some time → now < time)) ∧
      scope.deadline = (history.applied number).min? ∧
      (∀ start' deeds' number' scope', (ofDeeds start' deeds').scopes[number']? = some scope' →
        ((History.ofDeeds start' deeds').applied number').Perm (history.applied number) →
        scope'.deadline = scope.deadline) ∧
      (∀ source other, family.scopes[source]? = some other →
        history.Copies source number ∨ history.Below source number →
        ∀ time, other.deadline = some time →
          ∃ sooner, scope.deadline = some sooner ∧ sooner ≤ time) ∧
      (∀ more, (ofDeeds start (deeds ++ more)).scopes[number]? = some scope ∧
        (history.IsCancelled number → ∀ now,
          (scope.check { (ofDeeds start (deeds ++ more)).run with now }).1 =
            .failed .cancelled)) ∧
      (∀ other, ¬history.Ends other number → ∀ now,
        (scope.check { (ofDeeds start (deeds ++ [.cancel other])).run with now }).1 =
          (scope.check { family.run with now }).1) ∧
      (∀ child, history.Parent number child → ¬history.Ends child number) ∧
      (∀ parent sibling, history.Parent parent number → history.Parent parent sibling →
        ¬history.Shares sibling number → ¬history.Ends sibling number) := by
  intro family history
  have h : Tells history family := .ofDeeds start deeds
  refine ⟨h.length, fun number scope hs => ?_⟩
  refine ⟨h.check_iff hs, h.deadline_eq hs, ?_, ?_, ?_, ?_, ?_, ?_⟩
  · intro start' deeds' number' scope' hs' hperm
    rw [(Tells.ofDeeds start' deeds').deadline_eq hs', h.deadline_eq hs]
    refine Option.ext fun time => ?_
    rw [List.min?_eq_some_iff, List.min?_eq_some_iff]
    simp only [hperm.mem_iff]
  · intro source other ho hfrom time ht
    exact h.deadline_le hs ho hfrom ht
  · intro more
    obtain ⟨hscopes, hrun⟩ := grows_ofDeeds start deeds more
    refine ⟨?_, fun hcancelled now => ?_⟩
    · obtain ⟨later, hlater⟩ := hscopes
      obtain ⟨hlt, -⟩ := List.getElem?_eq_some_iff.mp hs
      rw [← hlater, List.getElem?_append_left hlt]
      exact hs
    · have hc := (h.isCancelled_iff (token?_of_some hs)).mpr hcancelled
      have hstays := Scope.isCancelled_of_precedes hrun hc
      have hends : scope.endedIn? { (ofDeeds start (deeds ++ more)).run with now } =
          some .cancelled := Scope.endedIn_of_cancelled hstays
      rw [Scope.check_of_ended hends]
  · intro other hn now
    have hlast : ofDeeds start (deeds ++ [.cancel other]) = family.step (.cancel other) := by
      unfold ofDeeds
      rw [List.foldl_append]
      rfl
    rw [hlast]
    exact h.check_cancel hs hn now
  · intro child hp
    exact h.not_ends_parent hp
  · intro parent sibling hp hsibling hother
    exact h.not_ends_sibling hsibling hp hother

/-- Cancelling a copy ends the scope that it was made from, and not its parent. -/
example :
    let family := ofDeeds 0 [.create, .fork 0, .copy 1, .cancel 2]
    family.scopes.map (·.token.isCancelled family.run.cancelled) = [false, true, true] := by
  decide

end Family

end OciBlobs
