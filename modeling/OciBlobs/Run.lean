/-
# `Run` — a run of the client, and actions in it

The state of a run is what the client and its caller can tell apart: the
clock, which tokens are cancelled, how the far side will take the requests to
come, which requests were handed over and which of them came through, what
was put out, and the files.  An action changes the state and ends in a value
or a failure; or it never ends, or the run comes down with it.
-/
import OciBlobs.Files
import OciBlobs.Http.Message
import OciBlobs.Log

namespace OciBlobs

/-- The state of a run. -/
structure Run where
  /-- Nanoseconds since the start. -/
  now : Int := 0
  /-- The tokens that were cancelled, last first. -/
  cancelled : List Token := []
  /-- The number of the next token. -/
  fresh : Nat := 0
  /-- How the far side will take the requests to come. -/
  replies : List Http.Reply := []
  /-- The requests that the client handed to its wire, in order. -/
  handed : List Http.Request := []
  /-- The requests that came through to the far side, in order. -/
  sent : List Http.Request := []
  /-- What was put out, in order. -/
  output : List Output := []
  files : Files := {}

/-- How an action ends. -/
inductive Outcome (α : Type)
  | ok (value : α)
  | failed (failure : Failure)
  /-- It waits for ever. -/
  | stuck
  /-- The clock cannot hold a time, and the run comes down. -/
  | overflow

/-- An action in a run. -/
def Act (α : Type) : Type :=
  Run → Outcome α × Run

namespace Act

variable {α β : Type}

def andThen (act : Act α) (next : α → Act β) : Act β := fun run =>
  match act run with
  | (.ok a, run) => next a run
  | (.failed failure, run) => (.failed failure, run)
  | (.stuck, run) => (.stuck, run)
  | (.overflow, run) => (.overflow, run)

instance : Monad Act where
  pure a := fun run => (.ok a, run)
  bind := andThen

def fail (failure : Failure) : Act α := fun run =>
  (.failed failure, run)

/-- Never ends. -/
def hang : Act α := fun run =>
  (.stuck, run)

/-- Brings the run down. -/
def overflow : Act α := fun run =>
  (.overflow, run)

def ofExcept : Except Failure α → Act α
  | .ok a => pure a
  | .error failure => fail failure

/-- An action with its failure as a result. -/
def attempt (act : Act α) : Act (Except Failure α) := fun run =>
  match act run with
  | (.ok a, run) => (.ok (.ok a), run)
  | (.failed failure, run) => (.ok (.error failure), run)
  | (.stuck, run) => (.stuck, run)
  | (.overflow, run) => (.overflow, run)

/-- Does something on failure and fails all the same. -/
def onFailure (act : Act α) (react : Failure → Act Unit) : Act α := do
  match ← act.attempt with
  | .ok a => pure a
  | .error failure =>
    react failure
    fail failure

def state : Act Run := fun run =>
  (.ok run, run)

def change (f : Run → Run) : Act Unit := fun run =>
  (.ok (), f run)

def note (logger : Log.Logger) (note : Log.Note) : Act Unit :=
  change fun run => { run with output := run.output ++ logger.render note }

/-- Puts octets on standard output. -/
def print (bytes : Bytes) : Act Unit :=
  change fun run => { run with output := run.output ++ [.stdout bytes] }

def putFile (place : Files.Place) (entry : Entry) : Act Unit :=
  change fun run => { run with files := run.files.put place entry }

/-- Notes that a request is handed to a wire. -/
def hand (request : Http.Request) : Act Unit :=
  change fun run => { run with handed := run.handed ++ [request] }

/-- Notes that a request comes through to the far side. -/
def record (request : Http.Request) : Act Unit :=
  change fun run => { run with sent := run.sent ++ [request] }

def nextReply : Act (Option Http.Reply) := fun run =>
  match run.replies with
  | [] => (.ok none, run)
  | reply :: rest => (.ok (some reply), { run with replies := rest })

/-- Brings a request through to the far side, which takes it with its next
reply; with none left it takes it as `spent` says.  A request that does not come
through fails as `broken` says. -/
def deliver (request : Http.Request) (spent : Http.Reply) (broken : Failure) :
    Act Http.Reply := do
  let run ← state
  if request.comesThrough run.replies then
    record request
    let reply ← nextReply
    pure (reply.getD spent)
  else fail broken

/-! ## Running a sequence -/

@[simp] theorem pure_run (a : α) (run : Run) : (pure a : Act α) run = (.ok a, run) :=
  rfl

theorem bind_run (act : Act α) (next : α → Act β) (run : Run) :
    (act >>= next) run = match act run with
      | (.ok a, after) => next a after
      | (.failed failure, after) => (.failed failure, after)
      | (.stuck, after) => (.stuck, after)
      | (.overflow, after) => (.overflow, after) :=
  rfl

theorem map_run (f : α → β) (act : Act α) (run : Run) :
    (f <$> act) run = (act >>= fun a => pure (f a)) run :=
  rfl

theorem bind_ok {act : Act α} {run after : Run} {a : α} (h : act run = (.ok a, after))
    (next : α → Act β) : (act >>= next) run = next a after := by
  rw [bind_run, h]

theorem bind_failed {act : Act α} {run after : Run} {failure : Failure}
    (h : act run = (.failed failure, after)) (next : α → Act β) :
    (act >>= next) run = (.failed failure, after) := by
  rw [bind_run, h]

theorem bind_stuck {act : Act α} {run after : Run} (h : act run = (.stuck, after))
    (next : α → Act β) : (act >>= next) run = (.stuck, after) := by
  rw [bind_run, h]

theorem bind_overflow {act : Act α} {run after : Run} (h : act run = (.overflow, after))
    (next : α → Act β) : (act >>= next) run = (.overflow, after) := by
  rw [bind_run, h]

theorem bind_eq_ok {act : Act α} {next : α → Act β} {run after : Run} {b : β}
    (h : (act >>= next) run = (.ok b, after)) :
    ∃ a mid, act run = (.ok a, mid) ∧ next a mid = (.ok b, after) := by
  rw [bind_run] at h
  generalize act run = ended at h ⊢
  rcases ended with ⟨_ | _ | _ | _, mid⟩
  · exact ⟨_, _, rfl, h⟩
  all_goals cases h

theorem bind_eq_failed {act : Act α} {next : α → Act β} {run after : Run} {failure : Failure}
    (h : (act >>= next) run = (.failed failure, after)) :
    act run = (.failed failure, after) ∨
      ∃ a mid, act run = (.ok a, mid) ∧ next a mid = (.failed failure, after) := by
  rw [bind_run] at h
  generalize act run = ended at h ⊢
  rcases ended with ⟨_ | _ | _ | _, mid⟩
  · exact .inr ⟨_, _, rfl, h⟩
  · cases h
    exact .inl rfl
  all_goals cases h

theorem bind_eq_stuck {act : Act α} {next : α → Act β} {run after : Run}
    (h : (act >>= next) run = (.stuck, after)) :
    act run = (.stuck, after) ∨
      ∃ a mid, act run = (.ok a, mid) ∧ next a mid = (.stuck, after) := by
  rw [bind_run] at h
  generalize act run = ended at h ⊢
  rcases ended with ⟨_ | _ | _ | _, mid⟩
  · exact .inr ⟨_, _, rfl, h⟩
  · cases h
  · cases h
    exact .inl rfl
  · cases h

theorem bind_assoc {γ : Type} (act : Act α) (next : α → Act β) (last : β → Act γ) :
    (act >>= next) >>= last = act >>= fun a => next a >>= last := by
  funext run
  simp only [bind_run]
  rcases act run with ⟨_ | _ | _ | _, after⟩ <;> rfl

instance : LawfulMonad Act :=
  .mk' Act (fun act => by
      funext run
      rw [map_run, bind_run]
      rcases act run with ⟨_ | _ | _ | _, after⟩ <;> rfl)
    (fun _ _ => rfl) bind_assoc

@[simp] theorem fail_run (failure : Failure) (run : Run) :
    (fail failure : Act α) run = (.failed failure, run) :=
  rfl

@[simp] theorem ofExcept_ok (a : α) : (ofExcept (.ok a) : Act α) = pure a :=
  rfl

@[simp] theorem ofExcept_error (failure : Failure) :
    (ofExcept (.error failure) : Act α) = fail failure :=
  rfl

theorem attempt_run (act : Act α) (run : Run) :
    act.attempt run = match act run with
      | (.ok a, after) => (.ok (.ok a), after)
      | (.failed failure, after) => (.ok (.error failure), after)
      | (.stuck, after) => (.stuck, after)
      | (.overflow, after) => (.overflow, after) :=
  rfl

theorem attempt_map (f : α → β) (act : Act α) :
    (f <$> act).attempt = act.attempt >>= fun result => pure (result.map f) := by
  funext run
  rw [attempt_run, map_run, bind_run, bind_run, attempt_run]
  rcases act run with ⟨_ | _ | _ | _, after⟩ <;> rfl

theorem onFailure_run (act : Act α) (react : Failure → Act Unit) (run : Run) :
    act.onFailure react run = match act run with
      | (.ok a, after) => (.ok a, after)
      | (.failed failure, after) => (react failure >>= fun _ => fail failure) after
      | (.stuck, after) => (.stuck, after)
      | (.overflow, after) => (.overflow, after) := by
  unfold onFailure
  rw [bind_run, attempt_run]
  rcases act run with ⟨_ | _ | _ | _, after⟩ <;> rfl

@[simp] theorem change_run (f : Run → Run) (run : Run) : change f run = (.ok (), f run) :=
  rfl

theorem deliver_run {request : Http.Request} {run : Run}
    (h : request.comesThrough run.replies = true) (spent : Http.Reply) (broken : Failure) :
    deliver request spent broken run = (.ok (run.replies.head?.getD spent),
      { run with sent := run.sent ++ [request], replies := run.replies.tail }) := by
  unfold deliver
  rw [bind_ok (rfl : state run = (.ok run, run)), if_pos h]
  show (nextReply >>= fun reply => pure (reply.getD spent))
    { run with sent := run.sent ++ [request] } = _
  rw [bind_run, nextReply]
  cases hr : run.replies with
  | nil => simp
  | cons reply rest => simp

theorem deliver_broken {request : Http.Request} {run : Run}
    (h : request.comesThrough run.replies = false) (spent : Http.Reply) (broken : Failure) :
    deliver request spent broken run = (.failed broken, run) := by
  unfold deliver
  rw [bind_ok (rfl : state run = (.ok run, run)), h]
  rfl

end Act

end OciBlobs
