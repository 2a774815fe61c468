/-
# `Wire` — how requests get to a registry

A wire hands requests over and brings back whatever answers them: any answer
is a success of the wire, whatever its status.  The direct wire hands each
request over once, as it is; the other one is an HTTP exchange.

Neither waits for a body to be sent once the answer is there.  A body that
breaks off is a failure of the wire just if nothing was answered by then, which
is for the far side to say (`Http.Reply.early`).
-/
import OciBlobs.Http.Exchange

namespace OciBlobs

open Http

/-- How requests get to a registry. -/
inductive Wire
  /-- Hands requests over as they are; fails as told when no reply is left. -/
  | direct (spent : Failure)
  | http (exchange : Exchange)

namespace Wire

/-- Hands a request over as it is and waits for what comes back; a body that
breaks off is told as such. -/
def sendDirect (spent : Failure) (scope : Scope) (request : Request) : Act Response := do
  let reply ← .deliver request { ending := .failure spent } (.exchange .requestBody)
  scope.await none reply.before
  .ofExcept (reply.ending.result request)

/-- Carries a request that was handed over. -/
def carry (wire : Wire) (scope : Scope) (request : Request) : Act Response :=
  match wire with
  | .direct spent => sendDirect spent scope request
  | .http exchange => exchange.send scope request

/-- Sends a request in a scope that has not ended. -/
def send (wire : Wire) (scope : Scope) (request : Request) : Act Response :=
  scope.guarded do
    .hand request
    wire.carry scope request

end Wire

def Http.Response.success (response : Response) : Except Failure Response :=
  if response.status.isSuccess then .ok response
  else .error (.status response.status response.url.text)

/-- Sends a request and takes only an answer that says success. -/
def Wire.sendForSuccess (wire : Wire) (scope : Scope) (request : Request) : Act Response := do
  let response ← wire.send scope request
  .ofExcept response.success

end OciBlobs
