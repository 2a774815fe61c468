/-
# `Proofs.Caller.Log` — callers and the logs of their clients

Whatever a caller does, it gets the same under every logger: the same results,
scopes and downloads, and the same requests have been handed over and come
through.  Each step may be done under a logger of its own, as by a client that
was given a copy of the log.
-/
import OciBlobs.Caller
import OciBlobs.Proofs.Log
import OciBlobs.Proofs.Blob.Reading

namespace OciBlobs

open Http

theorem Act.Operates.act {Q : ∀ {α : Type}, Act α → Prop}
    {P : ∀ {α : Type}, (Log.Logger → Act α) → Prop} (h : Operates Q P) (client : Client)
    (scope : Scope) (call : Call) : P fun logger => call.act (client.withLogger logger) scope := by
  cases call with
  | holds repository digest => exact h.map (h.holds client scope repository digest) _
  | download repository digest => exact h.map (h.download client scope repository digest) _
  | document repository digest => exact h.map (h.document client scope repository digest _) _
  | initiate repository => exact h.map (h.initiate client scope repository) _
  | finalize session repository digest content =>
      exact h.map (h.finalize client scope repository digest session content) _
  | upload repository digest content =>
      exact h.map (h.upload client scope repository digest content) _
  | uploadReads repository digest reads =>
      exact h.map (h.upload client scope repository digest (.ofReads reads)) _

namespace Caller

def withOutput (caller : Caller) (output : List Output) : Caller :=
  { caller with run := caller.run.withOutput output }

/-- Does steps one after another, each under the logger that is there for its
number. -/
def playUnder (client : Client) (loggerAt : Nat → Log.Logger) : Nat → Caller → List Step → Caller
  | _, caller, [] => caller
  | number, caller, step :: rest =>
    playUnder client loggerAt (number + 1)
      (caller.step (client.withLogger (loggerAt number)) step) rest

theorem playUnder_const (client : Client) (logger : Log.Logger) (steps : List Step) :
    ∀ (number : Nat) (caller : Caller), playUnder client (fun _ => logger) number caller steps =
      caller.play (client.withLogger logger) steps := by
  induction steps with
  | nil => exact fun _ _ => rfl
  | cons step rest ih => exact fun number caller => ih (number + 1) _

end Caller

end OciBlobs
