/-
# `Proofs.Run.Stall` — operations whose requests can stall

The far side may take a request by never answering it.  An operation heeds
stalls (`Act.HeedsStalls`) if such a request is the last thing it does: those
before it were taken by replies that do not stall (`Run.Calmly`), nothing is
handed over or sent afterwards, and what is left is to give up.

    heedsStalls_of_calmly   an action without stalls
    heedsStalls_exchange    one request and the wait for its reply
    exchange_stuck          the same, when nothing ends the wait
    HeedsStalls.bind        one action after another
    HeedsStalls.rethrown    an action whose failure is looked at
    HeedsStalls.annotates   an action with notes
-/
import OciBlobs.Proofs.Run.Wait

namespace OciBlobs

open Http

namespace Run

/-- The state in which a request has been handed over. -/
def handing (run : Run) (request : Request) : Run :=
  { run with handed := run.handed ++ [request] }

/-- The state in which a request has come through. -/
def taking (run : Run) (request : Request) : Run :=
  { run with sent := run.sent ++ [request], replies := run.replies.tail }

/-- Besides, each request that comes through is taken by the next reply, and
none of these replies stalls. -/
structure Calmly (before after : Run) : Prop where
  precedes : before.Precedes after
  taken : ∃ requests, after.sent = before.sent ++ requests ∧
    after.replies = before.replies.drop requests.length ∧
    ∀ reply ∈ before.replies.take requests.length, .stall ∉ reply.before

variable {a b c : Run}

theorem Idles.precedes (h : a.Idles b) : a.Precedes b :=
  h.carries.precedes

theorem Idles.calmly (h : a.Idles b) : a.Calmly b :=
  ⟨h.precedes, [], by simp [h.sent], by simp [h.replies], by simp⟩

theorem Calmly.trans (h : a.Calmly b) (h' : b.Calmly c) : a.Calmly c := by
  obtain ⟨first, hs, hr, hc⟩ := h.taken
  obtain ⟨more, hs', hr', hc'⟩ := h'.taken
  refine ⟨h.precedes.trans h'.precedes, first ++ more, by simp [hs', hs], ?_, ?_⟩
  · rw [hr', hr, List.drop_drop, List.length_append]
  · intro reply hm
    rw [List.length_append, List.take_add, List.mem_append, ← hr] at hm
    rcases hm with hm | hm
    · exact hc reply hm
    · exact hc' reply hm

instance calmlyPreorder : IsPreorder Run Calmly where
  refl run := (refl run : run.Idles run).calmly
  trans _ _ _ := Calmly.trans

theorem precedes_taking (run : Run) (request : Request) : run.Precedes (run.taking request) :=
  ⟨Int.le_refl _, List.suffix_rfl, List.prefix_rfl, List.prefix_append .., List.tail_suffix _⟩

theorem calmly_taking (run : Run) (request : Request)
    (h : ∀ reply, run.replies.head? = some reply → .stall ∉ reply.before) :
    run.Calmly (run.taking request) := by
  refine ⟨run.precedes_taking request, [request], rfl, by simp [taking], ?_⟩
  intro reply hm
  cases hr : run.replies with
  | nil => simp [hr] at hm
  | cons first rest =>
      simp only [hr, List.length_cons, List.length_nil, List.take_succ_cons, List.take_zero,
        List.mem_singleton] at hm
      subst hm
      exact h reply (by simp [hr])

end Run

namespace Act

variable {α β : Type} {scope : Scope} {late : Failure → Prop}

/-- From `run` the action comes to `mid` without a stall, and the reply that
takes the next request stalls: from then on there is only waiting, which is
given up. -/
structure StallsAt (scope : Scope) (late : Failure → Prop) (act : Act α) (run mid : Run) :
    Prop where
  calmly : run.Calmly mid
  stalls : ∃ reply, mid.replies.head? = some reply ∧ .stall ∈ reply.before
  idles : ∃ request, (mid.taking request).Idles (act run).2
  givesUp : scope.GivesUp late (act run).1 (act run).2

/-- A request that stalls is the last thing that the action does. -/
def HeedsStalls (scope : Scope) (late : Failure → Prop) (act : Act α) : Prop :=
  ∀ run, run.Calmly (act run).2 ∨ ∃ mid, act.StallsAt scope late run mid

theorem heedsStalls_of_calmly {act : Act α} (h : act.Within Run.Calmly) :
    act.HeedsStalls scope late :=
  fun run => .inl (h run)

theorem heedsStalls_of_idles {act : Act α} (h : act.Within Run.Idles) :
    act.HeedsStalls scope late :=
  fun run => .inl (h run).calmly

theorem heedsStalls_exchange (request : Request) {spent : Reply} (broken : Failure)
    {limit : Option Scope.Limit} {next : Reply → Act α} (hspent : spent.before = [])
    (hlate : ∀ reached, limit = some reached → late reached.failure)
    (hnext : ∀ reply, (next reply).Within Run.Idles) :
    (Act.deliver request spent broken >>= fun reply =>
      scope.await limit reply.before >>= fun _ => next reply).HeedsStalls scope late := by
  intro run
  cases hc : request.comesThrough run.replies with
  | false =>
      rw [bind_failed (deliver_broken hc spent broken)]
      exact .inl (refl run)
  | true => ?_
  generalize hreply : run.replies.head?.getD spent = reply
  have hrun := bind_ok (deliver_run hc spent broken)
    (fun reply => scope.await limit reply.before >>= fun _ => next reply)
  rw [hreply] at hrun
  have hidle : (scope.await limit reply.before >>= fun _ => next reply).Within Run.Idles :=
    (scope.idles_await _ _).bind fun _ => hnext reply
  by_cases hs : .stall ∈ reply.before
  · -- the reply is one of the far side: the spent one does not stall
    refine .inr ⟨run, refl run, ?_, ⟨request, hrun ▸ hidle _⟩, ?_⟩
    · cases hr : run.replies.head? with
      | none => simp [← hreply, hr, hspent] at hs
      | some first => exact ⟨first, rfl, by simpa [← hreply, hr] using hs⟩
    · rw [hrun]
      exact ((Scope.await_stall hs hlate _).bind _).1
  · refine .inl (hrun ▸ (run.calmly_taking request ?_).trans (hidle _).calmly)
    intro first hr
    simpa [← hreply, hr] using hs

/-- An exchange lasts for ever only over a reply that stalls, in a scope that
nothing ends. -/
theorem exchange_stuck {request : Request} {spent : Reply} {broken : Failure}
    {limit : Option Scope.Limit} {next : Reply → Act α} {run after : Run}
    (hspent : spent.before = []) (hnext : ∀ reply run, (next reply run).1 ≠ .stuck)
    (h : (Act.deliver request spent broken >>= fun reply =>
      scope.await limit reply.before >>= fun _ => next reply) run = (.stuck, after)) :
    scope.endedIn? after = none ∧ scope.deadline = none ∧
      ∃ reply ∈ run.replies, .stall ∈ reply.before := by
  cases hc : request.comesThrough run.replies with
  | false =>
      rw [bind_failed (deliver_broken hc spent broken)] at h
      cases h
  | true => ?_
  rw [bind_ok (deliver_run hc spent broken)] at h
  rcases bind_eq_stuck h with h | ⟨_, mid, -, h⟩
  · obtain ⟨hopen, hd, hs⟩ := Scope.await_stuck h
    refine ⟨hopen, hd, ?_⟩
    cases hr : run.replies with
    | nil => simp [hr, hspent] at hs
    | cons reply rest => exact ⟨reply, List.mem_cons_self, by simpa [hr] using hs⟩
  · exact absurd (congrArg Prod.fst h) (hnext _ mid)

theorem heedsStalls_after {act : Act α} {next : α → Act β} {run after : Run} {a : α}
    (hr : act run = (.ok a, after)) (hc : run.Calmly after)
    (hn : (next a).HeedsStalls scope late) :
    run.Calmly ((act >>= next) run).2 ∨ ∃ mid, (act >>= next).StallsAt scope late run mid := by
  have hrun := bind_ok hr next
  rcases hn after with hc' | ⟨mid, hcalm, hstalls, hidle, hgives⟩
  · exact .inl (hrun ▸ hc.trans hc')
  · exact .inr ⟨mid, hc.trans hcalm, hstalls, hrun ▸ hidle, hrun ▸ hgives⟩

namespace HeedsStalls

theorem bind {act : Act α} {next : α → Act β} (h : act.HeedsStalls scope late)
    (hn : ∀ a, (next a).HeedsStalls scope late) : (act >>= next).HeedsStalls scope late := by
  intro run
  rcases h run with hc | ⟨mid, hcalm, hstalls, ⟨request, hidle⟩, hgives⟩
  · cases hr : act run with | mk outcome after => ?_
    rw [hr] at hc
    cases outcome with
    | ok a => exact heedsStalls_after hr hc (hn a)
    | failed failure => exact .inl (bind_failed hr next ▸ hc)
    | stuck => exact .inl (bind_stuck hr next ▸ hc)
    | overflow => exact .inl (bind_overflow hr next ▸ hc)
  · obtain ⟨hg, hs⟩ := hgives.bind next
    exact .inr ⟨mid, hcalm, hstalls, ⟨request, hs ▸ hidle⟩, hg⟩

theorem map {act : Act α} (h : act.HeedsStalls scope late) (f : α → β) :
    (f <$> act).HeedsStalls scope late :=
  h.bind fun _ => heedsStalls_of_idles (.pure _)

/-- What looks at a failure, but fails with it again if the action gave up. -/
theorem rethrown {act : Act α} {next : Except Failure α → Act β}
    (h : act.HeedsStalls scope late) (hn : ∀ result, (next result).HeedsStalls scope late)
    (hkeep : ∀ failure, (late failure ∨ ∃ run, scope.endedIn? run = some failure) →
      next (.error failure) = fail failure) :
    (act.attempt >>= next).HeedsStalls scope late := by
  intro run
  have hr := attempt_run act run
  rcases h run with hc | ⟨mid, hcalm, hstalls, ⟨request, hidle⟩, hgives⟩
  · generalize act run = ended at hr hc
    rcases ended with ⟨a | failure | _ | _, after⟩
    · exact heedsStalls_after hr hc (hn _)
    · exact heedsStalls_after hr hc (hn _)
    · exact .inl (bind_stuck hr next ▸ hc)
    · exact .inl (bind_overflow hr next ▸ hc)
  · have hsame : ((act.attempt >>= next) run).2 = (act run).2 ∧
        scope.GivesUp late ((act.attempt >>= next) run).1 (act run).2 := by
      generalize act run = ended at hr hgives
      rcases ended with ⟨a | failure | _ | _, after⟩
      · exact absurd hgives Scope.GivesUp.not_ok
      · have hfail : next (.error failure) = fail failure := by
          cases hgives with
          | ended he => exact hkeep _ (.inr ⟨_, he⟩)
          | late hl _ => exact hkeep _ (.inl hl)
        rw [bind_ok hr next, hfail]
        exact ⟨rfl, hgives.failed⟩
      · rw [bind_stuck hr next]
        exact ⟨rfl, hgives.stuck⟩
      · exact absurd hgives Scope.GivesUp.not_overflow
    obtain ⟨hafter, hg⟩ := hsame
    exact .inr ⟨mid, hcalm, hstalls, ⟨request, hafter ▸ hidle⟩, hafter ▸ hg⟩

theorem precedes {act : Act α} (h : act.HeedsStalls scope late) : act.Within Run.Precedes := by
  intro run
  rcases h run with hc | ⟨mid, hcalm, -, ⟨request, hidle⟩, -⟩
  · exact hc.precedes
  · exact hcalm.precedes.trans ((mid.precedes_taking request).trans hidle.precedes)

theorem annotates {act bare : Act α} (h : bare.HeedsStalls scope late)
    (ha : act.Annotates bare) : act.HeedsStalls scope late := by
  intro run
  obtain ⟨output, hrun⟩ := ha run
  rcases h run with hc | ⟨mid, hcalm, hstalls, ⟨request, hidle⟩, hgives⟩
  · exact .inl (hrun ▸ hc.trans (Run.idles_withOutput _ _).calmly)
  · refine .inr ⟨mid, hcalm, hstalls, ⟨request, ?_⟩, ?_⟩
    · exact hrun ▸ IsTrans.trans _ _ _ hidle (Run.idles_withOutput _ _)
    · exact hrun ▸ hgives.withOutput output

end HeedsStalls

end Act

end OciBlobs
