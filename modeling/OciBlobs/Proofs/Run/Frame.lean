/-
# `Proofs.Run.Frame` — what an action can do to a run, and what it cannot see

An action changes the state of a run only in certain directions.  Three
preorders on states say how far:

    Idles      time passes and tokens are cancelled; the wire is left alone
    Carries    besides, requests come through to the far side
    Precedes   besides, requests are handed to the wire

Each is finer than the next.  `Act.Within` says that an action keeps to one of
them however it ends, and goes through sequencing, so that an operation has it
by its shape.  `Precedes` is why a scope that has ended stays ended
(`isCancelled_of_precedes`, `isOver_of_precedes`).

`Act.Quiet` is about the other direction: what was put out before makes no
difference to waiting, sending and reading.  So the notes that an operation
makes for a log can be left out of every statement about its requests and its
result.

All of these go through waiting, reading and sending in one way: a property that
has the parts of them (`Act.Waits`, `Act.Reads`, `Act.Sends`) has the whole.
-/
import Mathlib.Order.Defs.Unbundled
import OciBlobs.Wire

namespace OciBlobs

namespace Run

/-- Time passes and tokens are cancelled. -/
structure Idles (before after : Run) : Prop where
  now : before.now ≤ after.now
  cancelled : before.cancelled <:+ after.cancelled
  handed : after.handed = before.handed
  sent : after.sent = before.sent
  replies : after.replies = before.replies

/-- Besides, requests come through to the far side. -/
structure Carries (before after : Run) : Prop where
  now : before.now ≤ after.now
  cancelled : before.cancelled <:+ after.cancelled
  handed : after.handed = before.handed
  sent : before.sent <+: after.sent
  replies : after.replies <:+ before.replies

/-- Besides, requests are handed to the wire.  Nothing is ever taken back. -/
structure Precedes (before after : Run) : Prop where
  now : before.now ≤ after.now
  cancelled : before.cancelled <:+ after.cancelled
  handed : before.handed <+: after.handed
  sent : before.sent <+: after.sent
  replies : after.replies <:+ before.replies

variable {a b c : Run}

theorem Idles.carries (h : a.Idles b) : a.Carries b :=
  ⟨h.now, h.cancelled, h.handed, h.sent ▸ List.prefix_rfl, h.replies ▸ List.suffix_rfl⟩

theorem Carries.precedes (h : a.Carries b) : a.Precedes b :=
  ⟨h.now, h.cancelled, h.handed ▸ List.prefix_rfl, h.sent, h.replies⟩

instance idlesPreorder : IsPreorder Run Idles where
  refl _ := ⟨Int.le_refl _, List.suffix_rfl, rfl, rfl, rfl⟩
  trans _ _ _ h h' :=
    ⟨Int.le_trans h.now h'.now, h.cancelled.trans h'.cancelled, h'.handed.trans h.handed,
      h'.sent.trans h.sent, h'.replies.trans h.replies⟩

instance carriesPreorder : IsPreorder Run Carries where
  refl _ := ⟨Int.le_refl _, List.suffix_rfl, rfl, List.prefix_rfl, List.suffix_rfl⟩
  trans _ _ _ h h' :=
    ⟨Int.le_trans h.now h'.now, h.cancelled.trans h'.cancelled, h'.handed.trans h.handed,
      h.sent.trans h'.sent, h'.replies.trans h.replies⟩

instance precedesPreorder : IsPreorder Run Precedes where
  refl _ := ⟨Int.le_refl _, List.suffix_rfl, List.prefix_rfl, List.prefix_rfl, List.suffix_rfl⟩
  trans _ _ _ h h' :=
    ⟨Int.le_trans h.now h'.now, h.cancelled.trans h'.cancelled, h.handed.trans h'.handed,
      h.sent.trans h'.sent, h'.replies.trans h.replies⟩

theorem Precedes.trans (h : a.Precedes b) (h' : b.Precedes c) : a.Precedes c :=
  IsTrans.trans _ _ _ h h'

def withOutput (run : Run) (output : List Output) : Run :=
  { run with output }

section
variable (run : Run) (output : List Output)

@[simp] theorem withOutput_cancelled : (run.withOutput output).cancelled = run.cancelled := rfl
@[simp] theorem withOutput_handed : (run.withOutput output).handed = run.handed := rfl
@[simp] theorem withOutput_sent : (run.withOutput output).sent = run.sent := rfl
@[simp] theorem withOutput_replies : (run.withOutput output).replies = run.replies := rfl

@[simp] theorem endedIn_withOutput (scope : Scope) :
    scope.endedIn? (run.withOutput output) = scope.endedIn? run :=
  rfl

theorem idles_withOutput : run.Idles (run.withOutput output) :=
  ⟨Int.le_refl _, List.suffix_rfl, rfl, rfl, rfl⟩

end

end Run

/-! ## Scopes that have ended -/

namespace Scope

variable {scope : Scope} {run before after : Run}

/-- A scope has ended exactly when its token is cancelled or its deadline has
come; the former is what is told then. -/
theorem endedIn_eq_some {failure : Failure} :
    scope.endedIn? run = some failure ↔
      (scope.token.isCancelled run.cancelled = true ∧ failure = .cancelled) ∨
      (scope.token.isCancelled run.cancelled = false ∧ scope.isOver run.now = true ∧
        failure = .deadlineExceeded) := by
  cases hc : scope.token.isCancelled run.cancelled <;> cases ho : scope.isOver run.now <;>
    simp [endedIn?, ended?, hc, ho, eq_comm]

theorem endedIn_eq_none :
    scope.endedIn? run = none ↔
      scope.token.isCancelled run.cancelled = false ∧ scope.isOver run.now = false := by
  cases hc : scope.token.isCancelled run.cancelled <;> cases ho : scope.isOver run.now <;>
    simp [endedIn?, ended?, hc, ho]

theorem endedIn_of_cancelled (h : scope.token.isCancelled run.cancelled = true) :
    scope.endedIn? run = some .cancelled :=
  endedIn_eq_some.mpr (.inl ⟨h, rfl⟩)

theorem isCancelled_of_ended {failure : Failure} (h : scope.endedIn? run = some failure) :
    failure.isCancelled = true := by
  rcases endedIn_eq_some.mp h with ⟨-, rfl⟩ | ⟨-, -, rfl⟩
  · rfl
  · rfl

theorem isCancelled_of_precedes {token : Token} (h : before.Precedes after)
    (hc : token.isCancelled before.cancelled = true) :
    token.isCancelled after.cancelled = true := by
  simp only [Token.isCancelled, List.any_eq_true] at hc ⊢
  obtain ⟨above, hm, hs⟩ := hc
  exact ⟨above, h.cancelled.subset hm, hs⟩

theorem isOver_of_precedes (h : before.Precedes after) (ho : scope.isOver before.now = true) :
    scope.isOver after.now = true := by
  cases hd : scope.deadline with
  | none => simp [isOver, hd] at ho
  | some deadline =>
      simp only [isOver, hd, Option.any_some, decide_eq_true_eq] at ho ⊢
      exact Int.le_trans ho h.now

end Scope

/-- How an action ends, without its value. -/
def Outcome.forget {α : Type} : Outcome α → Outcome Unit
  | .ok _ => .ok ()
  | .failed failure => .failed failure
  | .stuck => .stuck
  | .overflow => .overflow

/-- The value that an action ends with, if it ends well. -/
def Outcome.value? {α : Type} : Outcome α → Option α
  | .ok value => some value
  | _ => none

theorem Outcome.eq_ok_of_value {α : Type} {ended : Outcome α} {value : α}
    (h : ended.value? = some value) : ended = .ok value := by
  cases ended with
  | ok other =>
      cases h
      rfl
  | failed | stuck | overflow => cases h

/-- How an action ends that only tells a result. -/
def Outcome.ofExcept {α : Type} : Except Failure α → Outcome α
  | .ok a => .ok a
  | .error failure => .failed failure

theorem Outcome.forget_self (outcome : Outcome Unit) : outcome.forget = outcome := by
  cases outcome <;> rfl

theorem Outcome.forget_eq_ok {α : Type} {outcome : Outcome α} :
    outcome.forget = .ok () ↔ ∃ a, outcome = .ok a := by
  cases outcome <;> simp [forget]

theorem Outcome.forget_eq_failed {α : Type} {outcome : Outcome α} {failure : Failure} :
    outcome.forget = .failed failure ↔ outcome = .failed failure := by
  cases outcome <;> simp [forget]

theorem Outcome.forget_eq_overflow {α : Type} {outcome : Outcome α} :
    outcome.forget = .overflow ↔ outcome = .overflow := by
  cases outcome <;> simp [forget]

namespace Act

variable {α β : Type}

theorem forget_run (act : Act α) (run : Run) :
    (act >>= fun _ => pure ()) run = ((act run).1.forget, (act run).2) := by
  rw [bind_run]
  rcases act run with ⟨_ | _ | _ | _, after⟩ <;> rfl

theorem bind_of_not_ok {act : Act α} {run : Run} (h : ∀ a, (act run).1 ≠ .ok a)
    (next : α → Act Unit) : (act >>= next) run = ((act run).1.forget, (act run).2) := by
  rw [bind_run]
  generalize act run = ended at h ⊢
  rcases ended with ⟨_ | _ | _ | _, after⟩
  · exact absurd rfl (h _)
  all_goals rfl

theorem ofExcept_run (result : Except Failure α) (run : Run) :
    ofExcept result run = (.ofExcept result, run) := by
  cases result <;> rfl

theorem ofExcept_eq_ok {result : Except Failure α} {run after : Run} {a : α}
    (h : ofExcept result run = (.ok a, after)) : result = .ok a := by
  cases result with
  | ok value =>
      cases h
      rfl
  | error failure => cases h

/-! ## What an action can do -/

/-- However the action ends, the run has gone along `R`. -/
def Within (R : Run → Run → Prop) (act : Act α) : Prop :=
  ∀ run, R run (act run).2

namespace Within

theorem mono {R S : Run → Run → Prop} (hRS : ∀ a b, R a b → S a b) {act : Act α}
    (h : act.Within R) : act.Within S :=
  fun run => hRS _ _ (h run)

theorem precedes {act : Act α} (h : act.Within Run.Carries) : act.Within Run.Precedes :=
  h.mono fun _ _ => Run.Carries.precedes

variable {R : Run → Run → Prop}

theorem attempt {act : Act α} (h : act.Within R) : act.attempt.Within R := by
  intro run
  have hr := h run
  rw [Act.attempt]
  generalize act run = ended at hr ⊢
  rcases ended with ⟨_ | _ | _ | _, after⟩ <;> exact hr

variable [IsPreorder Run R]

theorem pure (a : α) : (Pure.pure a : Act α).Within R :=
  fun run => refl run

theorem fail (failure : Failure) : (Act.fail failure : Act α).Within R :=
  fun run => refl run

theorem hang : (Act.hang : Act α).Within R :=
  fun run => refl run

theorem state : Act.state.Within R :=
  fun run => refl run

theorem ofExcept (result : Except Failure α) : (Act.ofExcept result).Within R := by
  cases result with
  | ok a => exact .pure a
  | error failure => exact .fail failure

theorem bind {act : Act α} {next : α → Act β} (h : act.Within R)
    (hn : ∀ a, (next a).Within R) : (act >>= next).Within R := by
  intro run
  have hr := h run
  rw [bind_run]
  generalize act run = ended at hr ⊢
  rcases ended with ⟨_ | _ | _ | _, after⟩
  · exact IsTrans.trans _ _ _ hr (hn _ after)
  all_goals exact hr

end Within

theorem idles_note (logger : Log.Logger) (note : Log.Note) :
    (Act.note logger note).Within Run.Idles :=
  fun run => run.idles_withOutput _

theorem precedes_hand (request : Http.Request) : (Act.hand request).Within Run.Precedes :=
  fun _ => ⟨Int.le_refl _, List.suffix_rfl, List.prefix_append .., List.prefix_rfl,
    List.suffix_rfl⟩

theorem carries_deliver (request : Http.Request) (spent : Http.Reply) (broken : Failure) :
    (Act.deliver request spent broken).Within Run.Carries := by
  intro run
  cases hc : request.comesThrough run.replies with
  | true =>
      rw [deliver_run hc]
      exact ⟨Int.le_refl _, List.suffix_rfl, rfl, List.prefix_append .., List.tail_suffix _⟩
  | false =>
      rw [deliver_broken hc]
      exact refl run

/-! ## What an action cannot see -/

/-- The action does not look at what was put out, and puts nothing out. -/
def Quiet (act : Act α) : Prop :=
  ∀ (run : Run) (output : List Output),
    act (run.withOutput output) = ((act run).1, (act run).2.withOutput output)

namespace Quiet

theorem pure (a : α) : (Pure.pure a : Act α).Quiet :=
  fun _ _ => rfl

theorem fail (failure : Failure) : (Act.fail failure : Act α).Quiet :=
  fun _ _ => rfl

theorem ofExcept (result : Except Failure α) : (Act.ofExcept result).Quiet := by
  cases result with
  | ok a => exact .pure a
  | error failure => exact .fail failure

theorem bind {act : Act α} {next : α → Act β} (h : act.Quiet) (hn : ∀ a, (next a).Quiet) :
    (act >>= next).Quiet := by
  intro run output
  rw [bind_run, bind_run, h run output]
  rcases act run with ⟨_ | _ | _ | _, after⟩
  · exact hn _ after output
  all_goals rfl

theorem attempt {act : Act α} (h : act.Quiet) : act.attempt.Quiet := by
  intro run output
  rw [attempt_run, attempt_run, h run output]
  rcases act run with ⟨_ | _ | _ | _, after⟩ <;> rfl

theorem change {f : Run → Run}
    (h : ∀ run output, f (run.withOutput output) = (f run).withOutput output) :
    (Act.change f).Quiet := by
  intro run output
  rw [change_run, change_run, h]

/-- What follows a look at the state, if it does not matter what was put out. -/
theorem state {next : Run → Act α} (hsame : ∀ run output, next (run.withOutput output) = next run)
    (h : ∀ run, (next run).Quiet) : (Act.state >>= next).Quiet := by
  intro run output
  show next (run.withOutput output) (run.withOutput output) = _
  rw [hsame]
  exact h run run output

end Quiet

/-! ## Actions that keep to the clock -/

/-- The action does not bring the run down. -/
def StaysUp (act : Act α) : Prop :=
  ∀ run, (act run).1 ≠ .overflow

theorem StaysUp.bind {act : Act α} {next : α → Act β} (h : act.StaysUp)
    (hn : ∀ a, (next a).StaysUp) : (act >>= next).StaysUp := by
  intro run
  have hr := h run
  rw [bind_run]
  generalize act run = ended at hr ⊢
  rcases ended with ⟨_ | _ | _ | _, after⟩
  · exact hn _ after
  · nofun
  · nofun
  · exact absurd rfl hr

/-! ## Operations with notes -/

/-- The first action is the second one with something put out besides. -/
def Annotates (act bare : Act α) : Prop :=
  ∀ run, ∃ output, act run = ((bare run).1, (bare run).2.withOutput output)

namespace Annotates

theorem refl (act : Act α) : act.Annotates act :=
  fun run => ⟨(act run).2.output, rfl⟩

theorem note_then {act bare : Act α} (h : act.Annotates bare) (hq : bare.Quiet)
    (logger : Log.Logger) (note : Log.Note) :
    (Act.note logger note >>= fun _ => act).Annotates bare := by
  intro run
  obtain ⟨output, ho⟩ := h (run.withOutput (run.output ++ logger.render note))
  rw [hq] at ho
  exact ⟨output, ho⟩

theorem bind {act bare : Act α} {next bareNext : α → Act β} (h : act.Annotates bare)
    (hn : ∀ a, (next a).Annotates (bareNext a)) (hq : ∀ a, (bareNext a).Quiet) :
    (act >>= next).Annotates (bare >>= bareNext) := by
  intro run
  obtain ⟨output, ho⟩ := h run
  rw [bind_run, bind_run, ho]
  rcases bare run with ⟨_ | _ | _ | _, after⟩
  · obtain ⟨more, hm⟩ := hn _ (after.withOutput output)
    rw [hq] at hm
    exact ⟨more, hm⟩
  all_goals exact ⟨output, rfl⟩

theorem onFailure {act bare : Act α} (h : act.Annotates bare) (logger : Log.Logger)
    (noteOf : Failure → Log.Note) :
    (act.onFailure fun failure => Act.note logger (noteOf failure)).Annotates bare := by
  intro run
  obtain ⟨output, ho⟩ := h run
  rw [onFailure_run, ho]
  rcases bare run with ⟨_ | _ | _ | _, after⟩
  · exact ⟨output, rfl⟩
  · exact ⟨_, rfl⟩
  all_goals exact ⟨output, rfl⟩

theorem then_note {act bare : Act α} (h : act.Annotates bare) (logger : Log.Logger)
    (noteOf : α → Log.Note) :
    (act >>= fun a => Act.note logger (noteOf a) >>= fun _ => Pure.pure a).Annotates bare := by
  intro run
  obtain ⟨output, ho⟩ := h run
  rw [bind_run, ho]
  rcases bare run with ⟨_ | _ | _ | _, after⟩
  · exact ⟨_, rfl⟩
  all_goals exact ⟨output, rfl⟩

variable {act bare : Act α}

theorem ok (h : act.Annotates bare) {run after : Run} {a : α} (hr : act run = (.ok a, after)) :
    ∃ last, bare run = (.ok a, last) ∧ after = last.withOutput after.output := by
  obtain ⟨output, ha⟩ := h run
  rw [ha] at hr
  generalize bare run = ended at hr ⊢
  obtain ⟨outcome, last⟩ := ended
  cases hr
  exact ⟨last, rfl, rfl⟩

end Annotates

end Act

/-! ## Waiting and sending -/

namespace Scope

theorem idles_check (scope : Scope) : scope.check.Within Run.Idles := by
  intro run
  rw [check]
  split <;> exact refl run

theorem idles_cancelToken (token : Token) : (cancelToken token).Within Run.Idles :=
  fun _ => ⟨Int.le_refl _, List.suffix_cons .., rfl, rfl, rfl⟩

theorem idles_reach (time : Int) : (reach time).Within Run.Idles :=
  fun _ => ⟨Int.le_max_left .., List.suffix_rfl, rfl, rfl, rfl⟩

end Scope

namespace Act

/-- A property of actions that goes through sequencing and that all parts of
waiting have.  Of the state, waiting looks at the clock only. -/
structure Waits (P : ∀ {α : Type}, Act α → Prop) : Prop where
  pure : ∀ {α : Type} (a : α), P (Pure.pure a : Act α)
  fail : ∀ {α : Type} (failure : Failure), P (Act.fail failure : Act α)
  hang : ∀ {α : Type}, P (Act.hang : Act α)
  bind : ∀ {α β : Type} {act : Act α} {next : α → Act β},
    P act → (∀ a, P (next a)) → P (act >>= next)
  clock : ∀ {α : Type} (next : Int → Act α),
    (∀ now, P (next now)) → P (Act.state >>= fun run => next run.now)
  check : ∀ scope : Scope, P scope.check
  reach : ∀ time : Int, P (Scope.reach time)
  cancelToken : ∀ token : Token, P (Scope.cancelToken token)

/-- Besides, it holds of an action whose failure is taken as a result. -/
structure Reads (P : ∀ {α : Type}, Act α → Prop) : Prop extends Waits P where
  attempt : ∀ {α : Type} {act : Act α}, P act → P act.attempt

/-- Besides, bringing a request through has it. -/
structure Sends (P : ∀ {α : Type}, Act α → Prop) : Prop extends Waits P where
  deliver : ∀ (request : Http.Request) (spent : Http.Reply) (broken : Failure),
    P (Act.deliver request spent broken)

namespace Waits

variable {P : ∀ {α : Type}, Act α → Prop} (h : Waits P)
include h

theorem ofExcept {α : Type} (result : Except Failure α) : P (Act.ofExcept result) := by
  cases result with
  | ok a => exact h.pure a
  | error failure => exact h.fail failure

theorem map {α β : Type} {act : Act α} (ha : P act) (f : α → β) : P (f <$> act) :=
  h.bind ha fun a => h.pure (f a)

theorem guarded {α : Type} (scope : Scope) {act : Act α} (ha : P act) : P (scope.guarded act) :=
  h.bind (h.check scope) fun _ => ha

theorem waitFor (scope : Scope) (limit : Option Scope.Limit) (target : Option Int) :
    P (scope.waitFor limit target) := by
  refine h.bind (h.check scope) fun _ => ?_
  cases scope.deadlineFirst? limit target with
  | some deadline => exact h.bind (h.reach _) fun _ => h.fail _
  | none =>
      cases Scope.limitFirst? limit target with
      | some reached => exact h.bind (h.reach _) fun _ => h.fail _
      | none =>
          cases target with
          | some time => exact h.reach _
          | none => exact h.hang

theorem await (scope : Scope) (limit : Option Scope.Limit) (moments : List Moment) :
    P (scope.await limit moments) := by
  induction moments with
  | nil => exact h.pure ()
  | cons moment rest ih =>
      cases moment with
      | cancel token => exact h.bind (h.cancelToken token) fun _ => ih
      | pass nanos =>
          exact h.clock (fun now => scope.waitFor limit (some (now + nanos)) >>= fun _ =>
            scope.await limit rest) fun now => h.bind (h.waitFor _ _ _) fun _ => ih
      | stall => exact h.waitFor _ _ _

end Waits

theorem waits_within {R : Run → Run → Prop} [IsPreorder Run R]
    (hR : ∀ a b, Run.Idles a b → R a b) : Waits (Within R) where
  pure := .pure
  fail := .fail
  hang := .hang
  bind := .bind
  clock _ hn := Within.state.bind fun run => hn run.now
  check scope := scope.idles_check.mono hR
  reach time := (Scope.idles_reach time).mono hR
  cancelToken token := (Scope.idles_cancelToken token).mono hR

theorem waits_idles : Waits (Within Run.Idles) :=
  waits_within fun _ _ => id

theorem reads_idles : Reads (Within Run.Idles) :=
  { waits_idles with attempt := .attempt }

theorem sends_carries : Sends (Within Run.Carries) :=
  { waits_within fun _ _ => Run.Idles.carries with deliver := carries_deliver }

theorem sends_precedes : Sends (Within Run.Precedes) :=
  { waits_within fun _ _ h => h.carries.precedes with
    deliver := fun request spent broken => (carries_deliver request spent broken).precedes }

theorem sends_quiet : Sends Quiet where
  pure := .pure
  fail := .fail
  hang := fun _ _ => rfl
  bind := .bind
  clock _ hn run output := hn run.now run output
  check scope run output := by
    simp only [Scope.check, Run.endedIn_withOutput]
    cases scope.endedIn? run <;> rfl
  reach _ _ _ := rfl
  cancelToken _ _ _ := rfl
  deliver request spent broken run output := by
    have hsame : (run.withOutput output).replies = run.replies := rfl
    cases hc : request.comesThrough run.replies with
    | true =>
        rw [deliver_run hc, deliver_run (hsame ▸ hc)]
        rfl
    | false => rw [deliver_broken hc, deliver_broken (hsame ▸ hc)]

theorem sends_staysUp : Sends StaysUp where
  pure _ := nofun
  fail _ := nofun
  hang := nofun
  bind := .bind
  clock _ hn run := hn run.now run
  check scope run h := by
    rw [Scope.check] at h
    split at h <;> cases h
  reach _ := nofun
  cancelToken _ := nofun
  deliver request spent broken run h := by
    cases hc : request.comesThrough run.replies with
    | true =>
        rw [deliver_run hc] at h
        cases h
    | false =>
        rw [deliver_broken hc] at h
        cases h

end Act

theorem Scope.idles_await (scope : Scope) (limit : Option Limit) (moments : List Moment) :
    (scope.await limit moments).Within Run.Idles :=
  Act.waits_idles.await scope limit moments

end OciBlobs
