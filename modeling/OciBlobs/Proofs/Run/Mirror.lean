/-
# `Proofs.Run.Mirror` — two runs side by side

Two actions mirror each other along a relation on states if, from states that it
relates, they end in the same way and in states that it relates again.  This
goes through sequencing; whatever follows the first action may use that it ended
with a value (`Mirrors.bind_run`), and need not mirror anything for values that
it does not end with.

An action that looks at no more of a state than the relation keeps alike mirrors
itself: so do waiting and reading, if the clock and the cancelled tokens are
alike (`reads_mirrors`).
-/
import OciBlobs.Proofs.Run.Frame

namespace OciBlobs

/-- The relation keeps clock and cancelled tokens alike, and is kept when the
clock goes on or a token is cancelled. -/
structure Run.Timed (S : Run → Run → Prop) : Prop where
  now : ∀ {a b}, S a b → a.now = b.now
  cancelled : ∀ {a b}, S a b → a.cancelled = b.cancelled
  reach : ∀ {a b} (time : Int), S a b →
    S { a with now := max a.now time } { b with now := max b.now time }
  cancel : ∀ {a b} (token : Token), S a b →
    S { a with cancelled := token :: a.cancelled } { b with cancelled := token :: b.cancelled }

theorem Scope.endedIn_of_timed {S : Run → Run → Prop} (hS : Run.Timed S) {a b : Run}
    (h : S a b) (scope : Scope) : scope.endedIn? a = scope.endedIn? b := by
  rw [endedIn?, endedIn?, hS.now h, hS.cancelled h]

namespace Act

variable {α β : Type} {S : Run → Run → Prop}

/-- From related states both actions end in the same way, and in related
states. -/
def Mirrors (S : Run → Run → Prop) (act other : Act α) : Prop :=
  ∀ a b, S a b → (act a).1 = (other b).1 ∧ S (act a).2 (other b).2

namespace Mirrors

theorem pure (a : α) : Mirrors S (Pure.pure a) (Pure.pure a) :=
  fun _ _ h => ⟨rfl, h⟩

theorem fail (failure : Failure) : Mirrors S (Act.fail failure : Act α) (Act.fail failure) :=
  fun _ _ h => ⟨rfl, h⟩

theorem ofExcept (result : Except Failure α) :
    Mirrors S (Act.ofExcept result) (Act.ofExcept result) := by
  cases result with
  | ok a => exact .pure a
  | error failure => exact .fail failure

theorem change {f g : Run → Run} (h : ∀ a b, S a b → S (f a) (g b)) :
    Mirrors S (Act.change f) (Act.change g) :=
  fun a b hab => ⟨rfl, h a b hab⟩

theorem state {next otherNext : Run → Act α}
    (hn : ∀ a b, S a b → Mirrors S (next a) (otherNext b)) :
    Mirrors S (Act.state >>= next) (Act.state >>= otherNext) :=
  fun a b h => hn a b h a b h

theorem ite {c : Prop} [Decidable c] {act other act' other' : Act α} (h : Mirrors S act other)
    (h' : Mirrors S act' other') :
    Mirrors S (if c then act else act') (if c then other else other') := by
  split
  · exact h
  · exact h'

/-- What follows need only mirror for the values that the first action ends
with. -/
theorem bind_run {act other : Act α} {next otherNext : α → Act β} (h : Mirrors S act other)
    (hn : ∀ run other value after, S run other → act run = (.ok value, after) →
      Mirrors S (next value) (otherNext value)) :
    Mirrors S (act >>= next) (other >>= otherNext) := by
  intro a b hab
  obtain ⟨ho, hs⟩ := h a b hab
  rw [Act.bind_run, Act.bind_run]
  cases hact : act a with | mk outcome after => ?_
  cases hother : other b with | mk otherOutcome otherAfter => ?_
  rw [hact, hother] at ho hs
  obtain rfl : outcome = otherOutcome := ho
  cases outcome with
  | ok value => exact hn a b value after hab hact after otherAfter hs
  | failed failure => exact ⟨rfl, hs⟩
  | stuck => exact ⟨rfl, hs⟩
  | overflow => exact ⟨rfl, hs⟩

theorem bind {act other : Act α} {next otherNext : α → Act β} (h : Mirrors S act other)
    (hn : ∀ a, Mirrors S (next a) (otherNext a)) :
    Mirrors S (act >>= next) (other >>= otherNext) :=
  h.bind_run fun _ _ value _ _ _ => hn value

theorem map {act other : Act α} (h : Mirrors S act other) (f : α → β) :
    Mirrors S (f <$> act) (f <$> other) :=
  h.bind fun a => .pure (f a)

theorem attempt {act other : Act α} (h : Mirrors S act other) :
    Mirrors S act.attempt other.attempt := by
  intro a b hab
  obtain ⟨ho, hs⟩ := h a b hab
  rw [attempt_run, attempt_run]
  cases hact : act a with | mk outcome after => ?_
  cases hother : other b with | mk otherOutcome otherAfter => ?_
  rw [hact, hother] at ho hs
  obtain rfl : outcome = otherOutcome := ho
  cases outcome <;> exact ⟨rfl, hs⟩

theorem onFailure {act other : Act α} (h : Mirrors S act other)
    {react otherReact : Failure → Act Unit}
    (hr : ∀ failure, Mirrors S (react failure) (otherReact failure)) :
    Mirrors S (act.onFailure react) (other.onFailure otherReact) := by
  refine h.attempt.bind fun result => ?_
  cases result with
  | ok a => exact .pure a
  | error failure => exact (hr failure).bind fun _ => .fail failure

end Mirrors

theorem reads_mirrors (hS : Run.Timed S) : Reads fun act => Mirrors S act act where
  pure := .pure
  fail := .fail
  hang _ _ h := ⟨rfl, h⟩
  bind := .bind
  clock next hn a b h := by
    show (next a.now a).1 = (next b.now b).1 ∧ S (next a.now a).2 (next b.now b).2
    rw [← hS.now h]
    exact hn a.now a b h
  check scope a b h := by
    rw [Scope.check, Scope.check, Scope.endedIn_of_timed hS h]
    split <;> exact ⟨rfl, h⟩
  reach time := .change fun _ _ h => hS.reach time h
  cancelToken token := .change fun _ _ h => hS.cancel token h
  attempt := .attempt

end Act

end OciBlobs
