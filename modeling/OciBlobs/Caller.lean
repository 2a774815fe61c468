/-
# `Caller` — whoever uses a client, step by step

A caller makes scopes, calls the operations of a client in them, and reads the
downloads that it was given.  Everything that it keeps can be used again in any
order, and a step that fails or never ends does not keep it from the next one:
it may be several tasks.
-/
import OciBlobs.Blob.Document
import OciBlobs.Blob.Upload

namespace OciBlobs

open Http

/-- The ways to read a download. -/
inductive Download.Way
  /-- The next piece; a stream gives its next item in the same way. -/
  | chunk
  /-- All that is left, as a whole. -/
  | bytes
  /-- All that is left, as a stream of items. -/
  | stream
  /-- All that is left, copied into a sink. -/
  | copy (sink : Download.Sink)

namespace Download

def read (download : Download) : Way → Act Reading
  | .chunk => do
    match ← download.next.attempt with
    | .ok none => pure {}
    | .ok (some (data, _)) => pure { pieces := [data] }
    | .error failure => pure { failure := some failure }
  | .bytes => do
    match ← download.whole.attempt with
    | .ok data => pure { pieces := [data] }
    | .error failure => pure { failure := some failure }
  | .stream => readingOf <$> download.items
  | .copy sink => download.copy sink

/-- What is left of a download: all ways but one use it up. -/
def left (download : Download) : Way → Option Download
  | .chunk =>
    some { download with
      response := { download.response with body := download.response.body.tail } }
  | .bytes | .stream | .copy _ => none

end Download

/-- The operations of a client. -/
inductive Call
  | holds (repository : String) (digest : Digest)
  | download (repository : String) (digest : Digest)
  | document (repository : String) (digest : Digest)
  | initiate (repository : String)
  | finalize (session : UploadSession) (repository : String) (digest : Digest)
    (content : Content)
  | upload (repository : String) (digest : Digest) (content : Content)
  | uploadReads (repository : String) (digest : Digest) (reads : List (Except IoError Bytes))

/-- What an operation gives its caller. -/
inductive Result
  | presence (found : Bool)
  | download (download : Download)
  | document (value : Json.Value)
  | session (session : UploadSession)
  | done

def Call.act (client : Client) (scope : Scope) : Call → Act Result
  | .holds repository digest => .presence <$> client.holds scope repository digest
  | .download repository digest => .download <$> client.download scope repository digest
  | .document repository digest =>
    .document <$> client.document .document scope repository digest
  | .initiate repository => .session <$> client.initiate scope repository
  | .finalize session repository digest content =>
    (fun _ => .done) <$> client.finalize scope session repository digest content
  | .upload repository digest content =>
    (fun _ => .done) <$> client.upload scope repository digest content
  | .uploadReads repository digest reads =>
    (fun _ => .done) <$> client.uploadReads scope repository digest reads

/-- A step of a caller.  Scopes and downloads go by their numbers, in the order
in which the caller got them. -/
inductive Step
  /-- Makes a scope of its own. -/
  | create
  /-- Makes a scope below another. -/
  | fork (scope : Nat)
  /-- Makes the same scope again. -/
  | copy (scope : Nat)
  /-- Makes the same scope with a deadline. -/
  | limit (scope : Nat) (deadline : Int)
  | cancel (scope : Nat)
  /-- Lets time pass. -/
  | pass (nanos : Nat)
  | call (scope : Nat) (call : Call)
  | read (download : Nat) (way : Download.Way)

/-- How a step ended, for the steps that can end badly. -/
inductive Told
  | call (outcome : Outcome Result)
  | read (outcome : Outcome Reading)

/-- A caller: the run that it is in, and what it has. -/
structure Caller where
  run : Run
  scopes : List Scope := []
  /-- The downloads; one that was used up is gone. -/
  downloads : List (Option Download) := []
  told : List Told := []

namespace Caller

def gain (caller : Caller) (ended : Outcome Scope × Run) : Caller :=
  { caller with
    run := ended.2
    scopes := match ended.1 with
      | .ok scope => caller.scopes ++ [scope]
      | _ => caller.scopes }

def take (caller : Caller) (ended : Outcome Result × Run) : Caller :=
  { caller with
    run := ended.2
    told := caller.told ++ [.call ended.1]
    downloads := match ended.1 with
      | .ok (.download download) => caller.downloads ++ [some download]
      | _ => caller.downloads }

/-- Adds what a reading told, and what it left of the download. -/
def put (caller : Caller) (number : Nat) (left : Option Download)
    (ended : Outcome Reading × Run) : Caller :=
  { caller with
    run := ended.2
    told := caller.told ++ [.read ended.1]
    downloads := caller.downloads.set number left }

/-- Does something with a scope; nothing, if no scope has the number. -/
def withScope (caller : Caller) (number : Nat) (next : Scope → Caller) : Caller :=
  match caller.scopes[number]? with
  | some scope => next scope
  | none => caller

/-- Does something with a download; nothing, if none has the number. -/
def withDownload (caller : Caller) (number : Nat) (next : Download → Caller) : Caller :=
  match caller.downloads[number]? with
  | some (some download) => next download
  | _ => caller

def step (client : Client) (caller : Caller) : Step → Caller
  | .create => caller.gain (Scope.create caller.run)
  | .fork number => caller.withScope number fun scope => caller.gain (scope.fork caller.run)
  | .copy number => caller.withScope number fun scope => caller.gain (.ok scope, caller.run)
  | .limit number deadline =>
    caller.withScope number fun scope =>
      caller.gain (.ok (scope.withDeadline deadline), caller.run)
  | .cancel number =>
    caller.withScope number fun scope => { caller with run := (scope.cancel caller.run).2 }
  | .pass nanos => { caller with run := { caller.run with now := caller.run.now + nanos } }
  | .call number call =>
    caller.withScope number fun scope => caller.take (call.act client scope caller.run)
  | .read number way =>
    caller.withDownload number fun download =>
      caller.put number (download.left way) (download.read way caller.run)

/-- Does steps one after another. -/
def play (client : Client) (caller : Caller) (steps : List Step) : Caller :=
  steps.foldl (step client) caller

variable {caller : Caller} {number : Nat}

theorem withScope_of_some {scope : Scope} (h : caller.scopes[number]? = some scope)
    (next : Scope → Caller) : caller.withScope number next = next scope := by
  rw [withScope, h]

theorem withDownload_of_some {download : Download}
    (h : caller.downloads[number]? = some (some download)) (next : Download → Caller) :
    caller.withDownload number next = next download := by
  rw [withDownload, h]

/-- What holds of a caller that does nothing, and whatever the scope is. -/
theorem withScope_elim {P : Caller → Prop} {next : Scope → Caller} (h : P caller)
    (hn : ∀ scope, P (next scope)) : P (caller.withScope number next) := by
  unfold withScope
  split
  · exact hn _
  · exact h

theorem withDownload_elim {P : Caller → Prop} {next : Download → Caller} (h : P caller)
    (hn : ∀ download, caller.downloads[number]? = some (some download) → P (next download)) :
    P (caller.withDownload number next) := by
  unfold withDownload
  split
  · exact hn _ ‹_›
  · exact h

end Caller

end OciBlobs
