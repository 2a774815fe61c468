/-
# `Proofs.Blob.Bare` — the operations without their notes

Every operation makes notes for the log between its requests.  Without them
an operation is a short sequence of requests and of decisions about their
answers, and this is the form in which its requests and its result are
reasoned about.

    annotates_holds      one request and what its outcome says
    annotates_download   one request, whatever its answer
    annotates_initiate   one request and the session that it opens
    annotates_finalize   the closing request of a session, if it has one
    annotates_upload     the last two in sequence
-/
import OciBlobs.Blob.Document
import OciBlobs.Proofs.Blob.Session
import OciBlobs.Proofs.Wire

namespace OciBlobs.Client

open Http

variable (client : Client) (scope : Scope) (repository : String) (digest : Digest)

def blobRequest (method : Method) : Request :=
  { method := method, url := client.address.blob repository digest }

/-- What the outcome of a request for a blob's head says about the blob. -/
def presenceOf : Except Failure Response → Except Failure Bool
  | .ok response => .ok (response.status == Status.ok)
  | .error failure => if failure.isNotFound then .ok false else .error failure

theorem quiet_sendForSuccess (request : Request) :
    (client.wire.sendForSuccess scope request).Quiet :=
  (client.wire.quiet_send scope request).bind fun _ => .ofExcept _

theorem annotates_holds :
    (client.holds scope repository digest).Annotates
      ((client.wire.sendForSuccess scope (client.blobRequest repository digest .head)).attempt
        >>= fun result => .ofExcept (presenceOf result)) := by
  refine .note_then (.bind (.refl _) (fun result => ?_) fun _ => .ofExcept _)
    ((client.quiet_sendForSuccess _ _).attempt.bind fun _ => .ofExcept _) _ _
  cases result with
  | ok response => exact fun run => ⟨_, rfl⟩
  | error failure =>
      unfold presenceOf
      dsimp only
      split <;> exact fun run => ⟨_, rfl⟩

theorem annotates_download :
    (client.download scope repository digest).Annotates
      (client.wire.send scope (client.blobRequest repository digest .get) >>= fun response =>
        pure { response, scope }) := by
  refine .note_then (.bind (.onFailure (.refl _) _ _) (fun response => ?_) fun _ => .pure _)
    ((client.wire.quiet_send _ _).bind fun _ => .pure _) _ _
  split
  · exact .refl _
  · intro run
    exact ⟨_, rfl⟩

theorem annotates_initiate :
    (client.initiate scope repository).Annotates
      (client.wire.send scope (client.openingRequest repository) >>= fun response =>
        .ofExcept (client.sessionOf response)) := by
  have hb : (client.wire.send scope (client.openingRequest repository) >>= fun response =>
      Act.ofExcept (client.sessionOf response)) =
      client.wire.sendForSuccess scope (client.openingRequest repository) >>= fun response =>
        Act.ofExcept (UploadSession.ofResponse client.tokenHeader response) := by
    unfold Wire.sendForSuccess
    rw [Act.bind_assoc]
    congr
    funext response
    unfold sessionOf
    cases response.success <;> rfl
  rw [hb]
  refine .note_then (.bind (.onFailure (.refl _) _ _) (fun response => ?_) fun _ => .ofExcept _)
    ((client.quiet_sendForSuccess _ _).bind fun _ => .ofExcept _) _ _
  exact .then_note (.refl _) _ _

theorem annotates_finalize (session : UploadSession) (content : Content) :
    (client.finalize scope session repository digest content).Annotates
      (.ofExcept (session.closingRequest digest content) >>= fun request =>
        client.wire.send scope request >>= fun _ => pure ()) := by
  have hq (request : Request) : (client.wire.send scope request >>= fun _ => pure ()).Quiet :=
    (client.wire.quiet_send _ _).bind fun _ => .pure _
  refine .note_then (.bind (.refl _) (fun request => ?_) hq)
    ((Act.Quiet.ofExcept _).bind hq) _ _
  refine .bind (.onFailure (.refl _) _ _) (fun response => ?_) fun _ => .pure _
  split <;> exact fun run => ⟨_, rfl⟩

def bareUpload (content : Content) : Act Unit := do
  let response ← client.wire.send scope (client.openingRequest repository)
  let session ← .ofExcept (client.sessionOf response)
  let request ← .ofExcept (session.closingRequest digest content)
  let _ ← client.wire.send scope request

theorem annotates_upload (content : Content) :
    (client.upload scope repository digest content).Annotates
      (client.bareUpload scope repository digest content) := by
  have h := Act.Annotates.bind (client.annotates_initiate scope repository)
    (fun session => client.annotates_finalize scope repository digest session content)
    fun session => (Act.Quiet.ofExcept _).bind fun _ =>
      (client.wire.quiet_send _ _).bind fun _ => .pure _
  rw [Act.bind_assoc] at h
  exact h

end OciBlobs.Client
