/-
# `Proofs.Scope.History` — what was done with scopes, and what follows from it

Scopes are made of their own, below others, or as others once more, perhaps
with a deadline; and they are cancelled.  A history keeps this and nothing
else: where each scope comes from, which deadlines were set on the way to it,
and which scopes were cancelled.  It knows of no tokens.

Two relations say whom cancelling concerns.

    Shares   one of the scopes was made as the other, in any number of steps
    Ends     the second is the first, shares with it, or is below one that is
             ended in this way

Scopes keep to their history (`Family.checks_follow_history`).
-/
import Mathlib.Logic.Relation
import OciBlobs.Scope

namespace OciBlobs

/-- What is done with scopes.  They go by their numbers, in the order in which
they were made. -/
inductive Deed
  /-- Makes a scope of its own. -/
  | create
  /-- Makes a scope below another. -/
  | fork (above : Nat)
  /-- Makes the same scope again. -/
  | copy (source : Nat)
  /-- Makes the same scope with a deadline. -/
  | limit (source : Nat) (deadline : Int)
  /-- Makes the same scope with a timeout from now. -/
  | limitFor (source : Nat) (timeout : Duration)
  | cancel (number : Nat)
  /-- Lets time pass. -/
  | pass (nanos : Nat)

/-- Where a scope comes from. -/
inductive Origin
  | alone
  | below (above : Nat)
  | same (source : Nat)

/-- What a history keeps of a scope. -/
structure Descent where
  origin : Origin
  /-- The deadlines that were set on the way to it, the last one first. -/
  applied : List Int := []

/-- What was done with scopes. -/
structure History where
  now : Int
  entries : List Descent := []
  /-- The scopes that were cancelled, the last one first. -/
  cancelled : List Nat := []

namespace History

/-- Adds a scope that comes from another, with what was set for that and
perhaps a deadline of its own; nothing, if no scope has the number. -/
def derive (history : History) (number : Nat) (origin : Origin) (own : Option Int) : History :=
  match history.entries[number]? with
  | some entry =>
    { history with entries := history.entries ++ [⟨origin, own.toList ++ entry.applied⟩] }
  | none => history

def step (history : History) : Deed → History
  | .create => { history with entries := history.entries ++ [⟨.alone, []⟩] }
  | .fork above => history.derive above (.below above) none
  | .copy source => history.derive source (.same source) none
  | .limit source deadline => history.derive source (.same source) (some deadline)
  | .limitFor source timeout =>
    -- a time that the clock cannot hold makes no scope
    if history.now + timeout.toNanos < Scope.clockLimit * 1000000000 then
      history.derive source (.same source) (some (history.now + timeout.toNanos))
    else history
  | .cancel number =>
    if number < history.entries.length then
      { history with cancelled := number :: history.cancelled }
    else history
  | .pass nanos => { history with now := history.now + nanos }

/-- What deeds come to that are done from a time on. -/
def ofDeeds (start : Int) (deeds : List Deed) : History :=
  deeds.foldl step { now := start }

/-- All deadlines that were set on the way to a scope. -/
def applied (history : History) (number : Nat) : List Int :=
  (history.entries[number]?.map (·.applied)).getD []

/-- The second scope was made as the first once more. -/
def Copies (history : History) (source number : Nat) : Prop :=
  ∃ applied, history.entries[number]? = some ⟨.same source, applied⟩

/-- The second scope was made below the first. -/
def Below (history : History) (above number : Nat) : Prop :=
  ∃ applied, history.entries[number]? = some ⟨.below above, applied⟩

/-- The scopes are the same but for their deadlines. -/
def Shares (history : History) : Nat → Nat → Prop :=
  Relation.EqvGen history.Copies

/-- Cancelling the first scope cancels the second. -/
def Ends (history : History) : Nat → Nat → Prop :=
  Relation.ReflTransGen fun upper lower => history.Shares upper lower ∨ history.Below upper lower

/-- The first scope is the one that the second was made below, or is the same
but for deadlines. -/
def Parent (history : History) (parent number : Nat) : Prop :=
  ∃ above below, history.Shares parent above ∧ history.Below above below ∧
    history.Shares below number

/-- Whether a scope was cancelled, itself or by one above it. -/
def IsCancelled (history : History) (number : Nat) : Prop :=
  ∃ cancelled ∈ history.cancelled, history.Ends cancelled number

variable {history : History} {a b c : Nat}

theorem Shares.symm (h : history.Shares a b) : history.Shares b a :=
  Relation.EqvGen.symm a b h

theorem Shares.trans (h : history.Shares a b) (h' : history.Shares b c) : history.Shares a c :=
  Relation.EqvGen.trans a b c h h'

theorem Copies.shares (h : history.Copies a b) : history.Shares a b :=
  Relation.EqvGen.rel a b h

theorem Shares.ends (h : history.Shares a b) : history.Ends a b :=
  Relation.ReflTransGen.single (.inl h)

theorem Ends.below (h : history.Ends a b) (h' : history.Below b c) : history.Ends a c :=
  Relation.ReflTransGen.tail h (.inr h')

theorem Ends.shares (h : history.Ends a b) (h' : history.Shares b c) : history.Ends a c :=
  Relation.ReflTransGen.tail h (.inl h')

end History

end OciBlobs
