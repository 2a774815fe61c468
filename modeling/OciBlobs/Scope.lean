/-
# `Scope` — who may end a request, and until when it may run

Every operation runs in a scope: a token that can be cancelled, and perhaps
a deadline.  Tokens form a tree; cancelling one cancels all below it.  A
token is its own address in the tree, from its number up to the root, so
that "below" is "has as a suffix" and nothing has to be looked up.
-/
import OciBlobs.Duration
import OciBlobs.Failure

namespace OciBlobs

/-- A token, as the numbers from it up to the root of its tree. -/
abbrev Token := List Nat

/-- Whether a token is cancelled, itself or by one above it. -/
def Token.isCancelled (cancelled : List Token) (token : Token) : Bool :=
  cancelled.any fun above => above.isSuffixOf token

/-- A token and perhaps a deadline, in nanoseconds of the clock. -/
structure Scope where
  token : Token
  deadline : Option Int := none
deriving DecidableEq, Repr

namespace Scope

/-- The same scope, ended at a deadline if it does not end before. -/
def withDeadline (scope : Scope) (deadline : Int) : Scope :=
  { scope with
    deadline := some (match scope.deadline with
      | some earlier => min earlier deadline
      | none => deadline) }

/-- What the clock cannot hold: this many seconds and more. -/
def clockLimit : Int := 0x8000000000000000

/-- The same scope, ended after a time; none if the clock cannot hold that. -/
def withTimeout? (scope : Scope) (now : Int) (timeout : Duration) : Option Scope :=
  let deadline := now + timeout.toNanos
  if deadline < clockLimit * 1000000000 then some (scope.withDeadline deadline) else none

/-- A scope below this one, with a number that no other has. -/
def child (scope : Scope) (number : Nat) : Scope :=
  { scope with token := number :: scope.token }

def isOver (scope : Scope) (now : Int) : Bool :=
  scope.deadline.any (· ≤ now)

/-- Why the scope has ended, if it has: cancelling is seen first. -/
def ended? (scope : Scope) (cancelled : List Token) (now : Int) : Option Failure :=
  if scope.token.isCancelled cancelled then some .cancelled
  else if scope.isOver now then some .deadlineExceeded
  else none

end Scope

/-- What can happen while something is waited for. -/
inductive Moment
  /-- Someone cancels a token. -/
  | cancel (token : Token)
  /-- Some nanoseconds pass; even with none others get their turn. -/
  | pass (nanos : Nat)
  /-- Nothing happens any more. -/
  | stall
deriving DecidableEq, Repr

end OciBlobs
