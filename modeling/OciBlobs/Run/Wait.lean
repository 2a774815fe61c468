/-
# `Run.Wait` — scopes in a run, and waiting in one

Whoever waits in a scope is told first that the scope was cancelled, then
that its deadline came, and only then what was waited for.  A wait may have a
limit of its own, which counts after the scope.
-/
import OciBlobs.Run

namespace OciBlobs.Scope

/-- A scope of its own. -/
def create : Act Scope := fun run =>
  (.ok { token := [run.fresh] }, { run with fresh := run.fresh + 1 })

/-- A scope below another. -/
def fork (scope : Scope) : Act Scope := fun run =>
  (.ok (scope.child run.fresh), { run with fresh := run.fresh + 1 })

/-- Cancels a token and all below it. -/
def cancelToken (token : Token) : Act Unit :=
  .change fun run => { run with cancelled := token :: run.cancelled }

/-- Cancels a scope and all below it. -/
def cancel (scope : Scope) : Act Unit :=
  cancelToken scope.token

/-- Why the scope has ended in a state of the run, if it has. -/
def endedIn? (scope : Scope) (run : Run) : Option Failure :=
  scope.ended? run.cancelled run.now

/-- Fails if the scope has ended. -/
def check (scope : Scope) : Act Unit := fun run =>
  match scope.endedIn? run with
  | some failure => (.failed failure, run)
  | none => (.ok (), run)

/-- An action that is not begun once the scope has ended. -/
def guarded {α : Type} (scope : Scope) (act : Act α) : Act α := do
  scope.check
  act

theorem check_of_ended {scope : Scope} {run : Run} {failure : Failure}
    (h : scope.endedIn? run = some failure) : scope.check run = (.failed failure, run) := by
  rw [check, h]

theorem check_of_open {scope : Scope} {run : Run} (h : scope.endedIn? run = none) :
    scope.check run = (.ok (), run) := by
  rw [check, h]

theorem guarded_of_ended {α : Type} {scope : Scope} {run : Run} {failure : Failure}
    (h : scope.endedIn? run = some failure) (act : Act α) :
    scope.guarded act run = (.failed failure, run) :=
  Act.bind_failed (check_of_ended h) _

theorem guarded_of_open {α : Type} {scope : Scope} {run : Run}
    (h : scope.endedIn? run = none) (act : Act α) : scope.guarded act run = act run :=
  Act.bind_ok (check_of_open h) _

/-- The same scope with a timeout from now. -/
def limited (scope : Scope) (timeout : Duration) : Act Scope := fun run =>
  match scope.withTimeout? run.now timeout with
  | some scope => (.ok scope, run)
  | none => (.overflow, run)

def overflowMessage : String :=
  "overflow when adding duration to instant"

/-- A time at which waiting is given up, and the failure that this is. -/
structure Limit where
  time : Int
  failure : Failure

/-- Whether a time comes no later than another, which may never come. -/
def comesBy (time : Int) (other : Option Int) : Bool :=
  other.all (time ≤ ·)

/-- Lets the clock come to a time that may be past. -/
def reach (time : Int) : Act Unit :=
  .change fun run => { run with now := max run.now time }

/-- The deadline, if neither what is waited for nor the limit comes before it. -/
def deadlineFirst? (scope : Scope) (limit : Option Limit) (target : Option Int) : Option Int :=
  scope.deadline.filter fun time => comesBy time target && comesBy time (limit.map (·.time))

/-- The limit, if what is waited for does not come before it. -/
def limitFirst? (limit : Option Limit) (target : Option Int) : Option Limit :=
  limit.filter fun limit => comesBy limit.time target

/-- Waits for a time, or for ever, unless the scope or the limit ends that. -/
def waitFor (scope : Scope) (limit : Option Limit) (target : Option Int) : Act Unit := do
  scope.check
  match scope.deadlineFirst? limit target, limitFirst? limit target, target with
  | some time, _, _ => do
    reach time
    .fail .deadlineExceeded
  | none, some limit, _ => do
    reach limit.time
    .fail limit.failure
  | none, none, some time => reach time
  | none, none, none => .hang

/-- Lives through moments in a scope. -/
def await (scope : Scope) (limit : Option Limit) : List Moment → Act Unit
  | [] => pure ()
  | .cancel token :: rest => do
    cancelToken token
    scope.await limit rest
  | .pass nanos :: rest => do
    let run ← Act.state
    scope.waitFor limit (some (run.now + nanos))
    scope.await limit rest
  | .stall :: _ => scope.waitFor limit none

end OciBlobs.Scope
