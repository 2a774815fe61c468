/-
# `Proofs.Run.Wait` — how waiting ends

A wait ends in one of four ways, and the state it ends in tells which:

    waited    what was waited for came, and the scope goes on
    ended     the scope has ended, and the wait fails with the reason
    late      a limit that is not the scope's came first
    endless   nothing will ever end it: no deadline, no limit, not cancelled

So a wait never ends well in a scope that has ended, and never fails with a
reason that is not the scope's or the limit's own.  A stalled wait cannot end
well at all; `GivesUp` is what is left of an operation that comes to one.
-/
import OciBlobs.Proofs.Run.Frame

namespace OciBlobs.Scope

variable {scope : Scope} {limit : Option Limit} {target : Option Int} {run after : Run}
  {outcome : Outcome Unit}

/-- How a wait ends, and the state of the run then. -/
inductive WaitEnds (scope : Scope) (limit : Option Limit) : Outcome Unit → Run → Prop
  | waited {after : Run} : scope.endedIn? after = none → WaitEnds scope limit (.ok ()) after
  | ended {after : Run} {failure : Failure} :
      scope.endedIn? after = some failure → WaitEnds scope limit (.failed failure) after
  | late {after : Run} {reached : Limit} :
      limit = some reached → scope.endedIn? after = none →
      WaitEnds scope limit (.failed reached.failure) after
  | endless {after : Run} :
      scope.endedIn? after = none → scope.deadline = none → limit = none →
      WaitEnds scope limit .stuck after

/-- A clock that has come to a time does not reach a deadline beyond it. -/
theorem open_of_reach {time : Int} (h : scope.endedIn? run = none)
    (hd : ∀ deadline, scope.deadline = some deadline → time < deadline) :
    scope.endedIn? { run with now := max run.now time } = none := by
  obtain ⟨hc, ho⟩ := endedIn_eq_none.mp h
  refine endedIn_eq_none.mpr ⟨hc, ?_⟩
  cases hs : scope.deadline with
  | none => simp [isOver, hs]
  | some deadline =>
      have hlt := hd deadline hs
      simp only [isOver, hs, Option.any_some, decide_eq_false_iff_not] at ho ⊢
      omega

theorem ended_of_reach {deadline : Int} (h : scope.endedIn? run = none)
    (hd : scope.deadline = some deadline) :
    scope.endedIn? { run with now := max run.now deadline } = some .deadlineExceeded := by
  obtain ⟨hc, -⟩ := endedIn_eq_none.mp h
  refine endedIn_eq_some.mpr (.inr ⟨hc, ?_, rfl⟩)
  simp only [isOver, hd, Option.any_some, decide_eq_true_eq]
  omega

theorem waitFor_ends (scope : Scope) (limit : Option Limit) (target : Option Int) (run : Run) :
    WaitEnds scope limit (scope.waitFor limit target run).1 (scope.waitFor limit target run).2 := by
  unfold waitFor
  cases he : scope.endedIn? run with
  | some failure =>
      rw [Act.bind_failed (check_of_ended he)]
      exact .ended he
  | none =>
      rw [Act.bind_ok (check_of_open he)]
      cases hf : scope.deadlineFirst? limit target with
      | some deadline =>
          obtain ⟨hd, -⟩ := Option.filter_eq_some_iff.mp hf
          exact .ended (ended_of_reach he hd)
      | none =>
          have hd := Option.filter_eq_none_iff.mp hf
          cases hl : limitFirst? limit target with
          | some reached =>
              -- the limit comes before what is waited for, so the deadline comes after both
              obtain ⟨hlim, hby⟩ := Option.filter_eq_some_iff.mp hl
              subst hlim
              refine .late rfl (open_of_reach he fun deadline hs => ?_)
              have hnot := hd deadline hs
              cases target with
              | none =>
                  simp only [comesBy, Option.all_none, Option.map_some, Option.all_some,
                    Bool.true_and, decide_eq_true_eq] at hnot
                  omega
              | some time =>
                  simp only [comesBy, Option.map_some, Option.all_some, Bool.and_eq_true,
                    decide_eq_true_eq] at hnot hby
                  omega
          | none =>
              have hlate := Option.filter_eq_none_iff.mp hl
              cases target with
              | some time =>
                  refine .waited (open_of_reach he fun deadline hs => ?_)
                  have hnot := hd deadline hs
                  cases limit with
                  | none =>
                      simp only [comesBy, Option.map_none, Option.all_none, Option.all_some,
                        Bool.and_true, decide_eq_true_eq] at hnot
                      omega
                  | some reached =>
                      have := hlate reached rfl
                      simp only [comesBy, Option.map_some, Option.all_some, Bool.and_eq_true,
                        decide_eq_true_eq] at hnot this
                      omega
              | none =>
                  have hlim : limit = none := by
                    cases limit with
                    | none => rfl
                    | some reached => exact absurd rfl (hlate reached rfl)
                  subst hlim
                  refine .endless he ?_ rfl
                  cases hs : scope.deadline with
                  | none => rfl
                  | some deadline => exact absurd rfl (hd deadline hs)

theorem waitFor_none_ne_ok (scope : Scope) (limit : Option Limit) (run : Run) :
    (scope.waitFor limit none run).1 ≠ .ok () := by
  unfold waitFor
  cases he : scope.endedIn? run with
  | some failure =>
      rw [Act.bind_failed (check_of_ended he)]
      nofun
  | none =>
      rw [Act.bind_ok (check_of_open he)]
      cases scope.deadlineFirst? limit none with
      | some deadline => nofun
      | none =>
          cases limitFirst? limit none with
          | some reached => nofun
          | none => nofun

theorem waitFor_some_ne_stuck (scope : Scope) (limit : Option Limit) (time : Int) (run : Run) :
    (scope.waitFor limit (some time) run).1 ≠ .stuck := by
  unfold waitFor
  cases he : scope.endedIn? run with
  | some failure =>
      rw [Act.bind_failed (check_of_ended he)]
      nofun
  | none =>
      rw [Act.bind_ok (check_of_open he)]
      cases scope.deadlineFirst? limit (some time) with
      | some deadline => nofun
      | none =>
          cases limitFirst? limit (some time) with
          | some reached => nofun
          | none => nofun

theorem stall_of_await_stuck (scope : Scope) (limit : Option Limit) :
    ∀ (moments : List Moment) (run : Run), (scope.await limit moments run).1 = .stuck →
      .stall ∈ moments
  | [], _, h => by cases h
  | .cancel token :: rest, run, h =>
      List.mem_cons_of_mem _ (stall_of_await_stuck scope limit rest (cancelToken token run).2 h)
  | .pass nanos :: rest, run, h => by
      have hne := scope.waitFor_some_ne_stuck limit (run.now + nanos) run
      have hb : scope.await limit (.pass nanos :: rest) run =
          (scope.waitFor limit (some (run.now + nanos)) >>= fun _ =>
            scope.await limit rest) run := rfl
      rw [hb, Act.bind_run] at h
      generalize scope.waitFor limit (some (run.now + nanos)) run = waited at h hne
      rcases waited with ⟨_ | _ | _ | _, after⟩
      · exact List.mem_cons_of_mem _ (stall_of_await_stuck scope limit rest after h)
      · cases h
      · exact absurd rfl hne
      · cases h
  | .stall :: rest, _, _ => List.mem_cons_self

/-- How living through moments ends: well, if none of them is a stall, or as a
wait that was cut short.  In the first case the scope may have ended all the
same, by a moment after the last wait. -/
theorem await_ends (scope : Scope) (limit : Option Limit) :
    ∀ (moments : List Moment) (run : Run),
      ((scope.await limit moments run).1 = .ok () ∧ .stall ∉ moments) ∨
      ((scope.await limit moments run).1 ≠ .ok () ∧
        WaitEnds scope limit (scope.await limit moments run).1 (scope.await limit moments run).2)
  | [], run => .inl ⟨rfl, List.not_mem_nil⟩
  | .cancel token :: rest, run => by
      rcases await_ends scope limit rest (cancelToken token run).2 with ⟨ho, hs⟩ | hw
      · exact .inl ⟨ho, by simpa using hs⟩
      · exact .inr hw
  | .pass nanos :: rest, run => by
      have hw := waitFor_ends scope limit (some (run.now + nanos)) run
      have hb : scope.await limit (.pass nanos :: rest) run =
          (scope.waitFor limit (some (run.now + nanos)) >>= fun _ =>
            scope.await limit rest) run := rfl
      rw [hb, Act.bind_run]
      generalize scope.waitFor limit (some (run.now + nanos)) run = waited at hw ⊢
      rcases waited with ⟨_ | _ | _ | _, after⟩
      · rcases await_ends scope limit rest after with ⟨ho, hs⟩ | hw
        · exact .inl ⟨ho, by simpa using hs⟩
        · exact .inr hw
      all_goals exact .inr ⟨nofun, hw⟩
  | .stall :: rest, run =>
      .inr ⟨waitFor_none_ne_ok scope limit run, waitFor_ends scope limit none run⟩

theorem await_failed {moments : List Moment} {failure : Failure}
    (h : scope.await limit moments run = (.failed failure, after)) :
    scope.endedIn? after = some failure ∨
      ∃ reached, limit = some reached ∧ failure = reached.failure := by
  have he := await_ends scope limit moments run
  rw [h] at he
  rcases he with ⟨ho, -⟩ | ⟨-, hw⟩
  · cases ho
  · cases hw with
    | ended h => exact .inl h
    | late hl _ => exact .inr ⟨_, hl, rfl⟩

/-- What lasts for ever comes to a stall, in a scope that nothing ends. -/
theorem await_stuck {moments : List Moment}
    (h : scope.await limit moments run = (.stuck, after)) :
    scope.endedIn? after = none ∧ scope.deadline = none ∧ .stall ∈ moments := by
  have hstall := stall_of_await_stuck scope limit moments run (congrArg Prod.fst h)
  have he := await_ends scope limit moments run
  rw [h] at he
  rcases he with ⟨ho, -⟩ | ⟨-, hw⟩
  · cases ho
  · cases hw with
    | endless hopen hd _ => exact ⟨hopen, hd, hstall⟩

/-! ## Operations that come to a stall -/

/-- What is left of an operation that waits for what never comes: it fails as
its scope has ended, or as told by a time limit of the wire (`late`), or
nothing ever ends it, which takes a scope without a deadline. -/
inductive GivesUp {α : Type} (scope : Scope) (late : Failure → Prop) : Outcome α → Run → Prop
  | ended {after : Run} {failure : Failure} :
      scope.endedIn? after = some failure → GivesUp scope late (.failed failure) after
  | late {after : Run} {failure : Failure} :
      late failure → scope.endedIn? after = none → GivesUp scope late (.failed failure) after
  | endless {after : Run} :
      scope.endedIn? after = none → scope.deadline = none → GivesUp scope late .stuck after

namespace GivesUp

variable {α β : Type} {late : Failure → Prop}

theorem not_ok {a : α} : ¬GivesUp scope late (.ok a) after := nofun

theorem not_overflow : ¬GivesUp scope late (.overflow : Outcome α) after := nofun

theorem failed {failure : Failure}
    (h : GivesUp scope late (.failed failure : Outcome α) after) :
    GivesUp scope late (.failed failure : Outcome β) after := by
  cases h with
  | ended h => exact .ended h
  | late hl h => exact .late hl h

theorem stuck (h : GivesUp scope late (.stuck : Outcome α) after) :
    GivesUp scope late (.stuck : Outcome β) after := by
  cases h with
  | endless h hd => exact .endless h hd

theorem withOutput {outcome : Outcome α} (h : GivesUp scope late outcome after)
    (output : List Output) : GivesUp scope late outcome (after.withOutput output) := by
  cases h with
  | ended h => exact .ended h
  | late hl h => exact .late hl h
  | endless h hd => exact .endless h hd

theorem bind {act : Act α} (h : GivesUp scope late (act run).1 (act run).2)
    (next : α → Act β) :
    GivesUp scope late ((act >>= next) run).1 ((act >>= next) run).2 ∧
      ((act >>= next) run).2 = (act run).2 := by
  rw [Act.bind_run]
  generalize act run = ended at h ⊢
  rcases ended with ⟨_ | _ | _ | _, after⟩
  · exact absurd h not_ok
  · exact ⟨h.failed, rfl⟩
  · exact ⟨h.stuck, rfl⟩
  · exact absurd h not_overflow

end GivesUp

theorem WaitEnds.givesUp {late : Failure → Prop} (h : WaitEnds scope limit outcome after)
    (hn : outcome ≠ .ok ()) (hl : ∀ reached, limit = some reached → late reached.failure) :
    GivesUp scope late outcome after := by
  cases h with
  | waited _ => exact absurd rfl hn
  | ended h => exact .ended h
  | late hr h => exact .late (hl _ hr) h
  | endless h hd _ => exact .endless h hd

theorem await_stall {late : Failure → Prop} {moments : List Moment} (hs : .stall ∈ moments)
    (hl : ∀ reached, limit = some reached → late reached.failure) (run : Run) :
    GivesUp scope late (scope.await limit moments run).1 (scope.await limit moments run).2 := by
  rcases await_ends scope limit moments run with ⟨-, hno⟩ | ⟨hne, hw⟩
  · exact absurd hs hno
  · exact hw.givesUp hne hl

end OciBlobs.Scope
