/-
# `Proofs.Wire` — what sending a request does

A request that is sent in a scope that has ended is not handed over
(`send_of_ended`).  Any other is handed over once, before the wire does
anything with it (`send_of_open`), and whatever the wire does, it hands over
nothing more (`send_handed`).  A failure is the scope's, or the wire's own
(`send_failed`), and only a reply that stalls makes it last for ever
(`send_stuck`).

A request that comes through may stall.  It is then the last one that comes
through, and it ends with its scope, with the time limit of the wire
(`TimesOut`), or never (`heedsStalls_send`).
-/
import OciBlobs.Proofs.Run.Stall

namespace OciBlobs

open Http

/-! ## What carrying a request is made of -/

namespace Act.Sends

variable {P : ∀ {α : Type}, Act α → Prop} (h : Sends P)
include h

theorem ask (exchange : Exchange) (scope : Scope) (giveUp : Option Int) (request : Request) :
    P (exchange.ask scope giveUp request) := by
  unfold Exchange.ask
  split
  · exact h.fail _
  split
  · exact h.fail _
  exact h.bind (h.deliver _ _ _) fun reply => h.bind (h.await _ _ _) fun _ =>
    h.bind (h.ofExcept _) fun _ => h.pure _

theorem follow (exchange : Exchange) (scope : Scope) (giveUp : Option Int) (remaining : Nat)
    (request : Request) : P (exchange.follow scope giveUp remaining request) := by
  induction remaining generalizing request with
  | zero =>
      refine h.bind (h.ask _ _ _ _) fun answer => ?_
      cases Exchange.redirected? request answer with
      | none => exact h.pure _
      | some next => exact h.fail _
  | succ remaining ih =>
      refine h.bind (h.ask _ _ _ _) fun answer => ?_
      cases Exchange.redirected? request answer with
      | none => exact h.pure _
      | some next => exact ih next

theorem carry (wire : Wire) (scope : Scope) (request : Request) :
    P (wire.carry scope request) := by
  cases wire with
  | direct spent =>
      exact h.bind (h.deliver _ _ _) fun reply => h.bind (h.await _ _ _) fun _ => h.ofExcept _
  | http exchange =>
      let next (now : Int) : Act Response := exchange.follow scope
        (exchange.timeout.map fun timeout => now + timeout.toNanos) Exchange.redirectLimit
        (exchange.dress request)
      have hnext : P (Act.state >>= fun run => next run.now) :=
        h.clock next fun now => h.follow _ _ _ _ _
      exact hnext

theorem send (hhand : ∀ request, P (Act.hand request)) (wire : Wire) (scope : Scope)
    (request : Request) : P (wire.send scope request) :=
  h.bind (h.check scope) fun _ => h.bind (hhand request) fun _ => h.carry wire scope request

end Act.Sends

namespace Wire

variable {wire : Wire} {scope : Scope} {request : Request} {run : Run}

theorem carries_carry (wire : Wire) (scope : Scope) (request : Request) :
    (wire.carry scope request).Within Run.Carries :=
  Act.sends_carries.carry wire scope request

/-! ## Sending a request -/

theorem send_of_ended {failure : Failure} (h : scope.endedIn? run = some failure) :
    wire.send scope request run = (.failed failure, run) :=
  Scope.guarded_of_ended h _

theorem send_of_open (h : scope.endedIn? run = none) :
    wire.send scope request run = wire.carry scope request (run.handing request) :=
  Scope.guarded_of_open h _

theorem send_handed (wire : Wire) (scope : Scope) (request : Request) (run : Run) :
    (wire.send scope request run).2.handed =
      run.handed ++ if scope.endedIn? run = none then [request] else [] := by
  cases he : scope.endedIn? run with
  | some failure => simp [send_of_ended he]
  | none =>
      rw [send_of_open he, (wire.carries_carry scope request _).handed]
      simp [Run.handing]

/-- How a direct wire takes a request, given the replies that are left. -/
def directReply (spent : Failure) (request : Request) (replies : List Reply) : Reply :=
  if request.comesThrough replies then replies.head?.getD { ending := .failure spent }
  else { ending := .failure (.exchange .requestBody) }

theorem sendDirect_run (spent : Failure) (scope : Scope) (request : Request) (run : Run) :
    ∃ taken : Run, taken.sent = run.sent ++ [request].filter (·.comesThrough run.replies) ∧
      sendDirect spent scope request run =
        (scope.await none (directReply spent request run.replies).before >>= fun _ =>
          Act.ofExcept ((directReply spent request run.replies).ending.result request)) taken := by
  unfold sendDirect directReply
  cases hc : request.comesThrough run.replies with
  | true =>
      rw [Act.bind_ok (Act.deliver_run hc ..)]
      exact ⟨_, by simp [hc], rfl⟩
  | false =>
      rw [Act.bind_failed (Act.deliver_broken hc ..)]
      exact ⟨run, by simp [hc], rfl⟩

/-- What a direct wire is handed comes through as it is, unless its content
fails before there is a reply. -/
theorem send_sent_direct {spent : Failure} (hw : wire = .direct spent) (scope : Scope)
    (request : Request) (run : Run) :
    (wire.send scope request run).2.sent =
      run.sent ++ (if scope.endedIn? run = none then [request] else []).filter
        (·.comesThrough run.replies) := by
  subst hw
  cases he : scope.endedIn? run with
  | some failure => simp [send_of_ended he]
  | none =>
      have hidle (reply : Reply) : (scope.await none reply.before >>= fun _ =>
          Act.ofExcept (reply.ending.result request)).Within Run.Idles :=
        (scope.idles_await _ _).bind fun _ => .ofExcept _
      obtain ⟨taken, hsent, hrun⟩ := sendDirect_run spent scope request (run.handing request)
      rw [send_of_open he, carry, hrun, (hidle _ _).sent, hsent]
      rfl

theorem precedes_send (wire : Wire) (scope : Scope) (request : Request) :
    (wire.send scope request).Within Run.Precedes :=
  Act.sends_precedes.send Act.precedes_hand wire scope request

theorem quiet_send (wire : Wire) (scope : Scope) (request : Request) :
    (wire.send scope request).Quiet :=
  Act.sends_quiet.send (fun _ _ _ => rfl) wire scope request

theorem staysUp_send (wire : Wire) (scope : Scope) (request : Request) :
    (wire.send scope request).StaysUp :=
  Act.sends_staysUp.send (fun _ => nofun) wire scope request

/-! ## How sending fails -/

/-- The failures that are a wire's own, and not the scope's. -/
def OwnFailure (wire : Wire) (request : Request) (replies : List Reply) (failure : Failure) :
    Prop :=
  match wire with
  | .direct spent => (directReply spent request replies).ending.result request = .error failure
  | .http _ => (∃ fault, failure = .exchange fault) ∨
      ∃ reply ∈ replies, reply.ending = .failure failure

end Wire

/-- A request of an exchange fails as its scope has ended, or with a fault of
the exchange or a failure that the far side gives. -/
theorem Http.Exchange.ask_failed {exchange : Exchange} {scope : Scope} {giveUp : Option Int}
    {request : Request} {run after : Run} {failure : Failure}
    (h : exchange.ask scope giveUp request run = (.failed failure, after)) :
    scope.endedIn? after = some failure ∨ (∃ fault, failure = .exchange fault) ∨
      ∃ reply ∈ run.replies, reply.ending = .failure failure := by
  unfold ask at h
  split at h
  · cases h
    exact .inr (.inl ⟨_, rfl⟩)
  split at h
  · cases h
    exact .inr (.inl ⟨_, rfl⟩)
  cases hc : (onWire request).comesThrough run.replies with
  | false =>
      rw [Act.bind_failed (Act.deliver_broken hc ..)] at h
      cases h
      exact .inr (.inl ⟨_, rfl⟩)
  | true => ?_
  rw [Act.bind_ok (Act.deliver_run hc ..)] at h
  rcases Act.bind_eq_failed h with h | ⟨_, _, -, h⟩
  · rcases Scope.await_failed h with he | ⟨reached, hl, rfl⟩
    · exact .inl he
    · obtain ⟨time, -, rfl⟩ := Option.map_eq_some_iff.mp hl
      exact .inr (.inl ⟨_, rfl⟩)
  rcases Act.bind_eq_failed h with h | ⟨_, _, -, h⟩
  · cases hr : run.replies with
    | nil =>
        rw [hr] at h
        cases h
        exact .inr (.inl ⟨_, rfl⟩)
    | cons reply rest =>
        rw [hr] at h
        cases hend : reply.ending with
        | answer answer url => simp [hend, Reply.Ending.result] at h
        | failure cause =>
            simp only [List.head?_cons, Option.getD_some, hend, Reply.Ending.result] at h
            cases h
            exact .inr (.inr ⟨reply, List.mem_cons_self, hend⟩)
        | closed =>
            simp only [List.head?_cons, Option.getD_some, hend, Reply.Ending.result] at h
            cases h
            exact .inr (.inl ⟨_, rfl⟩)
  · cases h

/-- Such a request lasts for ever only over a reply that stalls, in a scope that
nothing ends. -/
theorem Http.Exchange.ask_stuck {exchange : Exchange} {scope : Scope} {giveUp : Option Int}
    {request : Request} {run after : Run}
    (h : exchange.ask scope giveUp request run = (.stuck, after)) :
    scope.endedIn? after = none ∧ scope.deadline = none ∧
      ∃ reply ∈ run.replies, .stall ∈ reply.before := by
  unfold ask at h
  split at h
  · cases h
  split at h
  · cases h
  refine Act.exchange_stuck rfl (fun reply mid => ?_) h
  rw [Act.bind_run, Act.ofExcept_run]
  cases reply.ending.result request with
  | ok response => nofun
  | error failure => nofun

/-- How following redirects ends: in an answer, with one redirect too many, or
as the last of its requests did, which met the replies that were left. -/
inductive Http.Exchange.Follows (exchange : Exchange) (scope : Scope) (giveUp : Option Int)
    (run : Run) : Outcome Response × Run → Prop
  | answered {response : Response} {after : Run} :
      Follows exchange scope giveUp run (.ok response, after)
  | tooFar {url : String} {after : Run} :
      Follows exchange scope giveUp run (.failed (.exchange (.redirects url)), after)
  | failed {request : Request} {mid after : Run} {failure : Failure}
      (left : mid.replies <:+ run.replies)
      (asked : exchange.ask scope giveUp request mid = (.failed failure, after)) :
      Follows exchange scope giveUp run (.failed failure, after)
  | stuck {request : Request} {mid after : Run} (left : mid.replies <:+ run.replies)
      (asked : exchange.ask scope giveUp request mid = (.stuck, after)) :
      Follows exchange scope giveUp run (.stuck, after)

namespace Http.Exchange

variable {exchange : Exchange} {scope : Scope} {giveUp : Option Int}

theorem Follows.of_suffix {run mid : Run} {ended : Outcome Response × Run}
    (h : Follows exchange scope giveUp mid ended) (hs : mid.replies <:+ run.replies) :
    Follows exchange scope giveUp run ended := by
  cases h with
  | answered => exact .answered
  | tooFar => exact .tooFar
  | failed left asked => exact .failed (left.trans hs) asked
  | stuck left asked => exact .stuck (left.trans hs) asked

/-- One request, and what is made of its answer in the state that it leaves. -/
theorem follows_ask {request : Request} {next : Answer → Act Response} {run : Run}
    (hnext : ∀ answer after, after.replies <:+ run.replies →
      Follows exchange scope giveUp run (next answer after)) :
    Follows exchange scope giveUp run ((exchange.ask scope giveUp request >>= next) run) := by
  have hup := Act.sends_staysUp.ask exchange scope giveUp request run
  have hcarries := Act.sends_carries.ask exchange scope giveUp request run
  cases ha : exchange.ask scope giveUp request run with | mk outcome after => ?_
  rw [ha] at hup hcarries
  cases outcome with
  | ok answer =>
      rw [Act.bind_ok ha]
      exact hnext answer after hcarries.replies
  | failed failure =>
      rw [Act.bind_failed ha]
      exact .failed List.suffix_rfl ha
  | stuck =>
      rw [Act.bind_stuck ha]
      exact .stuck List.suffix_rfl ha
  | overflow => exact absurd rfl hup

theorem follows_follow : ∀ (remaining : Nat) (request : Request) (run : Run),
    Follows exchange scope giveUp run (exchange.follow scope giveUp remaining request run) := by
  intro remaining
  induction remaining with
  | zero =>
      intro request run
      refine follows_ask fun answer after _ => ?_
      cases redirected? request answer with
      | none => exact .answered
      | some next => exact .tooFar
  | succ remaining ih =>
      intro request run
      refine follows_ask fun answer after left => ?_
      cases redirected? request answer with
      | none => exact .answered
      | some next => exact (ih next after).of_suffix left

theorem follow_failed {failure : Failure} {remaining : Nat} {request : Request} {run after : Run}
    (h : exchange.follow scope giveUp remaining request run = (.failed failure, after)) :
    scope.endedIn? after = some failure ∨ (∃ fault, failure = .exchange fault) ∨
      ∃ reply ∈ run.replies, reply.ending = .failure failure := by
  have hf : Follows exchange scope giveUp run (.failed failure, after) := h ▸ follows_follow ..
  cases hf with
  | tooFar => exact .inr (.inl ⟨_, rfl⟩)
  | failed left asked =>
      rcases ask_failed asked with he | hfault | ⟨reply, hm, hending⟩
      · exact .inl he
      · exact .inr (.inl hfault)
      · exact .inr (.inr ⟨reply, left.subset hm, hending⟩)

theorem follow_stuck {remaining : Nat} {request : Request} {run after : Run}
    (h : exchange.follow scope giveUp remaining request run = (.stuck, after)) :
    scope.endedIn? after = none ∧ scope.deadline = none ∧
      ∃ reply ∈ run.replies, .stall ∈ reply.before := by
  have hf : Follows exchange scope giveUp run (.stuck, after) := h ▸ follows_follow ..
  cases hf with
  | stuck left asked =>
      obtain ⟨hopen, hd, reply, hm, hstall⟩ := ask_stuck asked
      exact ⟨hopen, hd, reply, left.subset hm, hstall⟩

end Http.Exchange

namespace Wire

variable {wire : Wire} {scope : Scope} {request : Request} {run after : Run}

theorem carry_failed {failure : Failure}
    (h : wire.carry scope request run = (.failed failure, after)) :
    scope.endedIn? after = some failure ∨ wire.OwnFailure request run.replies failure := by
  cases wire with
  | direct spent =>
      obtain ⟨taken, -, ht⟩ := sendDirect_run spent scope request run
      rw [carry, ht] at h
      rcases Act.bind_eq_failed h with h | ⟨_, mid, -, h⟩
      · rcases Scope.await_failed h with he | ⟨reached, hl, -⟩
        · exact .inl he
        · cases hl
      · refine .inr ?_
        unfold OwnFailure
        dsimp only
        generalize (directReply spent request run.replies).ending.result request = result at h ⊢
        cases result with
        | ok response => cases h
        | error own =>
            cases h
            rfl
  | http exchange => exact Exchange.follow_failed h

/-- A request fails as its scope has ended, or with a failure that is the
wire's own. -/
theorem send_failed {failure : Failure}
    (h : wire.send scope request run = (.failed failure, after)) :
    scope.endedIn? after = some failure ∨ wire.OwnFailure request run.replies failure := by
  cases he : scope.endedIn? run with
  | some ended =>
      rw [send_of_ended he] at h
      cases h
      exact .inl he
  | none =>
      rw [send_of_open he] at h
      have hf := carry_failed h
      exact hf

/-- A direct wire tells what the far side replied, unless the scope ends first
or nothing ever comes. -/
theorem send_direct {spent : Failure} (hw : wire = .direct spent)
    (ho : scope.endedIn? run = none) :
    let reply := directReply spent request run.replies
    ((wire.send scope request run).1 = .ofExcept (reply.ending.result request) ∧
      .stall ∉ reply.before) ∨
    scope.GivesUp (fun _ => False) (wire.send scope request run).1
      (wire.send scope request run).2 := by
  subst hw
  intro reply
  obtain ⟨taken, -, ht⟩ := sendDirect_run spent scope request (run.handing request)
  have hcarry : (Wire.direct spent).send scope request run =
      (scope.await none reply.before >>= fun _ =>
        Act.ofExcept (reply.ending.result request)) taken := by
    rw [send_of_open ho]
    exact ht
  rw [hcarry]
  rcases scope.await_ends none reply.before taken with ⟨hok, hs⟩ | ⟨hne, hends⟩
  · refine .inl ⟨?_, hs⟩
    rw [Act.bind_ok (Prod.ext hok rfl), Act.ofExcept_run]
  · exact .inr ((hends.givesUp hne nofun).bind _).1

/-! ## How sending lasts for ever -/

theorem carry_stuck (h : wire.carry scope request run = (.stuck, after)) :
    scope.endedIn? after = none ∧ scope.deadline = none ∧
      ∃ reply ∈ run.replies, .stall ∈ reply.before := by
  cases wire with
  | http exchange => exact Exchange.follow_stuck h
  | direct spent =>
      have hresult (reply : Reply) (mid : Run) :
          ((Act.ofExcept (reply.ending.result request) : Act Response) mid).1 ≠ .stuck := by
        rw [Act.ofExcept_run]
        cases reply.ending.result request with
        | ok response => nofun
        | error failure => nofun
      exact Act.exchange_stuck rfl hresult h

/-- A request lasts for ever only over a reply that stalls, in a scope that
nothing ends. -/
theorem send_stuck (h : wire.send scope request run = (.stuck, after)) :
    scope.endedIn? after = none ∧ scope.deadline = none ∧
      ∃ reply ∈ run.replies, .stall ∈ reply.before := by
  cases he : scope.endedIn? run with
  | some failure =>
      rw [send_of_ended he] at h
      cases h
  | none =>
      rw [send_of_open he] at h
      have hs := carry_stuck h
      exact hs

/-! ## How sending stalls -/

/-- The failures by which a wire tells that its own time is up. -/
def TimesOut : Wire → Failure → Prop
  | .direct _, _ => False
  | .http exchange, failure =>
      exchange.timeout.isSome ∧ ∃ url, failure = .exchange (.unanswered url)

end Wire

namespace Http.Exchange

variable (exchange : Exchange) (scope : Scope) {giveUp : Option Int}

theorem heedsStalls_ask (h : giveUp.isSome → exchange.timeout.isSome) (request : Request) :
    (exchange.ask scope giveUp request).HeedsStalls scope (Wire.http exchange).TimesOut := by
  have hfail (failure : Failure) : (Act.fail failure : Act Answer).HeedsStalls scope
      (Wire.http exchange).TimesOut :=
    Act.heedsStalls_of_idles (.fail failure)
  unfold ask
  split
  · exact hfail _
  split
  · exact hfail _
  refine Act.heedsStalls_exchange _ _ rfl ?_ fun reply =>
    (Act.Within.ofExcept _).bind fun _ => .pure _
  intro reached hreached
  obtain ⟨time, ht, rfl⟩ := Option.map_eq_some_iff.mp hreached
  exact ⟨h (ht ▸ rfl), _, rfl⟩

theorem heedsStalls_follow (h : giveUp.isSome → exchange.timeout.isSome) :
    ∀ (remaining : Nat) (request : Request),
      (exchange.follow scope giveUp remaining request).HeedsStalls scope
        (Wire.http exchange).TimesOut
  | 0, request => by
      refine (heedsStalls_ask exchange scope h request).bind fun answer => ?_
      cases redirected? request answer with
      | none => exact Act.heedsStalls_of_idles (.pure _)
      | some next => exact Act.heedsStalls_of_idles (.fail _)
  | remaining + 1, request => by
      refine (heedsStalls_ask exchange scope h request).bind fun answer => ?_
      cases redirected? request answer with
      | none => exact Act.heedsStalls_of_idles (.pure _)
      | some next => exact heedsStalls_follow h remaining next

end Http.Exchange

namespace Wire

theorem heedsStalls_carry (wire : Wire) (scope : Scope) (request : Request) :
    (wire.carry scope request).HeedsStalls scope wire.TimesOut := by
  cases wire with
  | direct spent => exact Act.heedsStalls_exchange _ _ rfl nofun fun _ => .ofExcept _
  | http exchange =>
      refine (Act.heedsStalls_of_idles .state).bind fun run => ?_
      exact exchange.heedsStalls_follow scope (by simp) _ _

theorem heedsStalls_send (wire : Wire) (scope : Scope) (request : Request) :
    (wire.send scope request).HeedsStalls scope wire.TimesOut := by
  refine (Act.heedsStalls_of_idles scope.idles_check).bind fun _ => ?_
  refine (Act.heedsStalls_of_calmly fun run => ?_).bind fun _ =>
    wire.heedsStalls_carry scope request
  exact ⟨Act.precedes_hand request run, [], by simp [Act.hand], by simp [Act.hand], by simp⟩

end Wire

end OciBlobs
