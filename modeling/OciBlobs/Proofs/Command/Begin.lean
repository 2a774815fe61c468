/-
# `Proofs.Command.Begin` — how a run comes to its command

Before a run carries out its command it reads its settings, builds a client and
makes a scope of its own, with a deadline if there is a timeout (`Begins`):

    unset     the settings cannot be read           their failure
    unbuilt   no client can be built with them      its failure
    beyond    the clock cannot hold the deadline    the run comes down
    ready     the command is carried out

Nothing of this is seen outside but the number of the scope.  Behind the command
there is a note of how long it took, which is no more than a remark; so a run
ends as its command does (`Begins.carried`).
-/
import OciBlobs.Command
import OciBlobs.Proofs.Output

namespace OciBlobs

/-! ## The scope of a run -/

/-- The clock can hold the deadline of a run that begins now. -/
def Settings.FitsClock (settings : Settings) (now : Int) : Prop :=
  ∀ timeout ∈ settings.activeTimeout, now + timeout.toNanos < Scope.clockLimit * 1000000000

theorem Settings.fitsClock_zero {settings : Settings} :
    settings.FitsClock 0 ↔ ∀ timeout ∈ settings.activeTimeout,
      (timeout.toNanos : Int) < Scope.clockLimit * 1000000000 := by
  unfold FitsClock
  simp only [Int.zero_add]

theorem Settings.fitsClock_new (address : String) : (Settings.new address).FitsClock 0 := by
  rw [fitsClock_zero]
  rintro timeout ⟨⟩
  decide

/-- Makes a scope below another, with the deadline that the settings ask for. -/
def Settings.enter (settings : Settings) (scope : Scope) : Act Scope := do
  let own ← scope.fork
  match settings.activeTimeout with
  | some timeout => own.limited timeout
  | none => pure own

/-- The scope in which a run carries out its command. -/
def Settings.ownScope (settings : Settings) (scope : Scope) (run : Run) : Scope :=
  match settings.activeTimeout with
  | some timeout => (scope.child run.fresh).withDeadline (run.now + timeout.toNanos)
  | none => scope.child run.fresh

/-- The state in which a run carries out its command. -/
def Run.begun (run : Run) : Run :=
  { run with fresh := run.fresh + 1 }

theorem Run.keeps_begun (run : Run) : run.Keeps run.begun :=
  ⟨rfl, rfl⟩

section
variable {settings : Settings} {run : Run}

theorem Settings.enter_of_fits (h : settings.FitsClock run.now) (scope : Scope) :
    settings.enter scope run = (.ok (settings.ownScope scope run), run.begun) := by
  have hfork : scope.fork run = (.ok (scope.child run.fresh), run.begun) := rfl
  unfold enter ownScope
  rw [Act.bind_ok hfork]
  cases hactive : settings.activeTimeout with
  | none => rfl
  | some timeout =>
      show (scope.child run.fresh).limited timeout run.begun = _
      have hheld : (scope.child run.fresh).withTimeout? run.now timeout =
          some ((scope.child run.fresh).withDeadline (run.now + timeout.toNanos)) :=
        if_pos (h timeout hactive)
      rw [Scope.limited, show run.begun.now = run.now from rfl, hheld]

theorem Settings.enter_of_beyond (h : ¬settings.FitsClock run.now) (scope : Scope) :
    settings.enter scope run = (.overflow, run.begun) := by
  have hfork : scope.fork run = (.ok (scope.child run.fresh), run.begun) := rfl
  unfold enter
  rw [Act.bind_ok hfork]
  cases hactive : settings.activeTimeout with
  | none => exact absurd (fun timeout hm => by simp [hactive] at hm) h
  | some timeout =>
      show (scope.child run.fresh).limited timeout run.begun = _
      have hbeyond : ¬run.now + timeout.toNanos < Scope.clockLimit * 1000000000 := by
        intro hfits
        refine h fun other hm => ?_
        rw [hactive, Option.mem_some] at hm
        exact hm ▸ hfits
      have hnone : (scope.child run.fresh).withTimeout? run.now timeout = none := if_neg hbeyond
      rw [Scope.limited, show run.begun.now = run.now from rfl, hnone]

end

namespace CommandLine

/-- Notes how long a run took. -/
def close (line : CommandLine) (start : Int) : Act Unit := do
  let finish ← Act.state
  .note line.logger ⟨.detail, "Finished in " ++ elapsedText (finish.now - start).toNat ++ "s"⟩

section
variable (line : CommandLine) (environment : Environment) (reaches : Url → Bool) (scope : Scope)
  (run : Run)

/-- What a run comes to before its command. -/
inductive Begins : Outcome (Client × Scope) → Run → Prop
  | unset {failure : Failure} (unset : line.settings environment = .error failure) :
      Begins (.failed failure) run
  | unbuilt {settings : Settings} {failure : Failure}
      (set : line.settings environment = .ok settings)
      (unbuilt : Client.ofSettings settings reaches (some line.logger) = .error failure) :
      Begins (.failed failure) run
  | beyond {settings : Settings} {client : Client}
      (set : line.settings environment = .ok settings)
      (built : Client.ofSettings settings reaches (some line.logger) = .ok client)
      (beyond : ¬settings.FitsClock run.now) : Begins .overflow run.begun
  | ready {settings : Settings} {client : Client}
      (set : line.settings environment = .ok settings)
      (built : Client.ofSettings settings reaches (some line.logger) = .ok client)
      (fits : settings.FitsClock run.now) :
      Begins (.ok (client, settings.ownScope scope run)) run.begun

end

variable {line : CommandLine} {environment : Environment} {reaches : Url → Bool} {scope : Scope}
  {run : Run}

theorem keeps_close (line : CommandLine) (start : Int) : (line.close start).Within Run.Keeps :=
  Act.Within.state.bind fun _ => Act.keeps_note (.inl rfl)

theorem begins_exists (line : CommandLine) (environment : Environment) (reaches : Url → Bool)
    (scope : Scope) (run : Run) :
    ∃ outcome after, line.Begins environment reaches scope run outcome after := by
  cases hset : line.settings environment with
  | error failure => exact ⟨_, _, .unset hset⟩
  | ok settings =>
      cases hbuilt : Client.ofSettings settings reaches (some line.logger) with
      | error failure => exact ⟨_, _, .unbuilt hset hbuilt⟩
      | ok client =>
          rcases Classical.em (settings.FitsClock run.now) with hfits | hbeyond
          · exact ⟨_, _, .ready hset hbuilt hfits⟩
          · exact ⟨_, _, .beyond hset hbuilt hbeyond⟩

theorem Begins.keeps {outcome : Outcome (Client × Scope)} {after : Run}
    (h : line.Begins environment reaches scope run outcome after) : run.Keeps after := by
  cases h with
  | unset _ => exact refl run
  | unbuilt _ _ => exact refl run
  | beyond _ _ _ => exact run.keeps_begun
  | ready _ _ _ => exact run.keeps_begun

theorem run_eq (line : CommandLine) (environment : Environment) (reaches : Url → Bool)
    (scope : Scope) (run : Run) :
    line.run environment reaches scope run =
      (Act.ofExcept (line.settings environment) >>= fun settings =>
        Act.ofExcept (Client.ofSettings settings reaches (some line.logger)) >>= fun client =>
        settings.enter scope >>= fun inner =>
        line.execute client inner >>= fun _ => line.close run.now) run := by
  unfold CommandLine.run Settings.enter
  simp only [Act.bind_assoc]
  show (Act.ofExcept (line.settings environment) >>= _) run = _
  refine congrFun (bind_congr fun settings => bind_congr fun client => bind_congr fun own => ?_) run
  cases settings.activeTimeout with
  | some timeout => rfl
  | none => rfl

theorem Begins.missed {outcome : Outcome (Client × Scope)} {after : Run}
    (h : line.Begins environment reaches scope run outcome after)
    (hne : ∀ made, outcome ≠ .ok made) :
    line.run environment reaches scope run = (outcome.forget, after) := by
  rw [run_eq]
  cases h with
  | unset hset =>
      rw [hset]
      rfl
  | unbuilt hset hbuilt =>
      rw [hset, Act.ofExcept_ok, Act.bind_ok (Act.pure_run ..), hbuilt]
      rfl
  | beyond hset hbuilt hbeyond =>
      rw [hset, Act.ofExcept_ok, Act.bind_ok (Act.pure_run ..), hbuilt, Act.ofExcept_ok,
        Act.bind_ok (Act.pure_run ..), Act.bind_overflow (Settings.enter_of_beyond hbeyond scope)]
      rfl
  | ready => exact absurd rfl (hne _)

theorem Begins.carried {client : Client} {inner : Scope} {begun : Run}
    (h : line.Begins environment reaches scope run (.ok (client, inner)) begun) :
    ∃ output, Output.stdoutOf output =
        Output.stdoutOf (line.execute client inner begun).2.output ∧
      line.run environment reaches scope run =
        ((line.execute client inner begun).1,
          (line.execute client inner begun).2.withOutput output) := by
  cases h with
  | ready hset hbuilt hfits =>
      rw [run_eq, hset, Act.ofExcept_ok, Act.bind_ok (Act.pure_run ..), hbuilt, Act.ofExcept_ok,
        Act.bind_ok (Act.pure_run ..), Act.bind_ok (Settings.enter_of_fits hfits scope),
        Act.bind_run]
      rcases line.execute client _ run.begun with ⟨_ | _ | _ | _, after⟩
      · refine ⟨(line.close run.now after).2.output, ?_, rfl⟩
        exact (line.keeps_close run.now after).stdout
      all_goals exact ⟨after.output, rfl, rfl⟩

/-- Either a run does not come to its command, or it ends as that does; in all it
does besides, it keeps the files and standard output. -/
theorem run_cases (line : CommandLine) (environment : Environment) (reaches : Url → Bool)
    (scope : Scope) (run : Run) :
    let ended := line.run environment reaches scope run
    (ended.1 ≠ .ok () ∧ run.Keeps ended.2) ∨
      ∃ client inner begun,
        line.Begins environment reaches scope run (.ok (client, inner)) begun ∧
        ended.1 = (line.execute client inner begun).1 ∧
        (line.execute client inner begun).2.Keeps ended.2 := by
  intro ended
  obtain ⟨outcome, begun, hbegins⟩ := line.begins_exists environment reaches scope run
  by_cases hmade : ∃ made, outcome = .ok made
  · obtain ⟨⟨client, inner⟩, rfl⟩ := hmade
    obtain ⟨shown, hshown, hended⟩ := hbegins.carried
    rw [show ended = _ from hended]
    exact .inr ⟨client, inner, begun, hbegins, rfl, rfl, hshown⟩
  · rw [show ended = _ from hbegins.missed (not_exists.mp hmade)]
    exact .inl ⟨fun hok => hmade (Outcome.forget_eq_ok.mp hok), hbegins.keeps⟩

end CommandLine

end OciBlobs
