/-
# `Proofs.Blob.Operate` — what the operations of a client are made of

An operation waits, sends, reads, and remarks on what it does in the log of its
client.  A property of actions under every logger that goes through sequencing
and that these parts have, is a property of every operation (`Act.Operates`).
Waiting, sending and reading know of no logger; a property of what they do by
themselves is carried over to that of actions under every logger.

    Client.withLogger      the same client with another log
    Operates.holds, …      the operations, one by one
-/
import OciBlobs.Blob.Upload
import OciBlobs.Proofs.Blob.Document

namespace OciBlobs

open Http

def Client.withLogger (client : Client) (logger : Log.Logger) : Client :=
  { client with logger := logger }

namespace Client

section
variable (client : Client) (logger : Log.Logger)

@[simp] theorem withLogger_address : (client.withLogger logger).address = client.address := rfl

@[simp] theorem withLogger_wire : (client.withLogger logger).wire = client.wire := rfl

@[simp] theorem withLogger_tokenHeader :
    (client.withLogger logger).tokenHeader = client.tokenHeader := rfl

@[simp] theorem withLogger_note (level : Log.Level) (text : String) :
    (client.withLogger logger).note level text = Act.note logger ⟨level, text⟩ := rfl

@[simp] theorem withLogger_trace (name : String) (fields : List (String × String)) :
    (client.withLogger logger).trace name fields = Act.note logger (Log.trace name fields) := rfl

end

end Client

namespace Act

/-- A property `P` of actions under every logger that all parts of an operation
have: what they have by themselves is `Q`, and remarks have `P` right away. -/
structure Operates (Q : ∀ {α : Type}, Act α → Prop)
    (P : ∀ {α : Type}, (Log.Logger → Act α) → Prop) : Prop where
  reads : Reads Q
  sends : Sends Q
  hand : ∀ request : Request, Q (Act.hand request)
  still : ∀ {α : Type} {act : Act α}, Q act → P fun _ => act
  remark : ∀ note : Log.Note, note.level.isAnswer = false → P fun logger => Act.note logger note
  bind : ∀ {α β : Type} {act : Log.Logger → Act α} {next : Log.Logger → α → Act β},
    P act → (∀ a, P fun logger => next logger a) → P fun logger => act logger >>= next logger
  attempt : ∀ {α : Type} {act : Log.Logger → Act α}, P act → P fun logger => (act logger).attempt

namespace Operates

variable {Q : ∀ {α : Type}, Act α → Prop} {P : ∀ {α : Type}, (Log.Logger → Act α) → Prop}
  (h : Operates Q P) {α β : Type}
include h

theorem pure (a : α) : P fun _ => (Pure.pure a : Act α) :=
  h.still (h.reads.pure a)

theorem fail (failure : Failure) : P fun _ => (Act.fail failure : Act α) :=
  h.still (h.reads.fail failure)

theorem ofExcept (result : Except Failure α) : P fun _ => Act.ofExcept result :=
  h.still (h.reads.ofExcept result)

theorem map {act : Log.Logger → Act α} (ha : P act) (f : α → β) :
    P fun logger => f <$> act logger :=
  h.bind ha fun a => h.pure (f a)

theorem onFailure {act : Log.Logger → Act α} {react : Log.Logger → Failure → Act Unit} (ha : P act)
    (hr : ∀ failure, P fun logger => react logger failure) :
    P fun logger => (act logger).onFailure (react logger) := by
  refine h.bind (h.attempt ha) fun result => ?_
  cases result with
  | ok a => exact h.pure a
  | error failure => exact h.bind (hr failure) fun _ => h.fail failure

theorem remarking {level : Log.Level} (text : String) {next : Log.Logger → Act α}
    (hl : level.isAnswer = false) (hn : P next) :
    P fun logger => Act.note logger ⟨level, text⟩ >>= fun _ => next logger :=
  h.bind (h.remark _ hl) fun _ => hn

theorem tracing (name : String) (fields : List (String × String)) {next : Log.Logger → Act α}
    (hn : P next) :
    P fun logger => Act.note logger (Log.trace name fields) >>= fun _ => next logger :=
  h.bind (h.remark _ rfl) fun _ => hn

section
variable (wire : Wire) (scope : Scope) (request : Request)

theorem send : P fun _ => wire.send scope request :=
  h.still (h.sends.send h.hand wire scope request)

theorem sendForSuccess : P fun _ => wire.sendForSuccess scope request :=
  h.bind (h.send wire scope request) fun _ => h.ofExcept _

end

/-! ## The operations -/

variable (client : Client) (scope : Scope) (repository : String) (digest : Digest)

theorem holds : P fun logger => (client.withLogger logger).holds scope repository digest := by
  simp only [Client.holds, Client.withLogger_address, Client.withLogger_wire,
    Client.withLogger_note, Client.withLogger_trace]
  refine h.tracing _ _ (h.bind (h.attempt (h.sendForSuccess _ scope _)) fun result => ?_)
  cases result with
  | ok response => exact h.remarking _ rfl (h.pure _)
  | error failure =>
      dsimp only
      split
      · exact h.remarking _ rfl (h.pure false)
      · exact h.remarking _ rfl (h.fail failure)

theorem download :
    P fun logger => (client.withLogger logger).download scope repository digest := by
  simp only [Client.download, Client.withLogger_address, Client.withLogger_wire,
    Client.withLogger_note, Client.withLogger_trace]
  refine h.tracing _ _ (h.bind (h.onFailure (h.send _ scope _) fun failure =>
    h.remark _ rfl) fun response => ?_)
  split
  · exact h.pure _
  · exact h.remarking _ rfl (h.pure _)

theorem initiate : P fun logger => (client.withLogger logger).initiate scope repository := by
  simp only [Client.initiate, Client.openingRequest, Client.withLogger_address,
    Client.withLogger_wire, Client.withLogger_tokenHeader, Client.withLogger_note,
    Client.withLogger_trace]
  refine h.tracing _ _ (h.bind (h.onFailure (h.sendForSuccess _ scope _) fun failure =>
    h.remark _ rfl) fun response => ?_)
  exact h.bind (h.ofExcept _) fun session => h.remarking _ rfl (h.pure session)

theorem finalize (session : UploadSession) (content : Content) :
    P fun logger =>
      (client.withLogger logger).finalize scope session repository digest content := by
  simp only [Client.finalize, Client.withLogger_wire, Client.withLogger_note,
    Client.withLogger_trace]
  refine h.tracing _ _ (h.bind (h.ofExcept _) fun request => ?_)
  refine h.bind (h.onFailure (h.send _ scope request) fun failure => h.remark _ rfl)
    fun response => ?_
  split
  · exact h.remark _ rfl
  · exact h.remark _ rfl

theorem upload (content : Content) :
    P fun logger => (client.withLogger logger).upload scope repository digest content :=
  h.bind (h.initiate client scope repository) fun session =>
    h.finalize client scope repository digest session content

theorem document (decoder : Json.Decoder α) :
    P fun logger => (client.withLogger logger).document decoder scope repository digest := by
  refine h.bind (h.download client scope repository digest) fun download => ?_
  refine h.bind (h.still (h.reads.decode decoder download)) fun result => ?_
  cases result with
  | ok a => exact h.pure a
  | error fault => exact h.remarking _ rfl (h.fail _)

end Operates

end Act

end OciBlobs
