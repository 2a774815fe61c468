/-
# `Blob.Download` — the body of a blob, and the ways to read it

A download is handed out before its status is looked at and before any of
its body is read.  The body can be taken piece by piece, as a stream of
items, as a whole, or copied into a sink.  Reading happens in the scope that
the download was started in: each step first asks whether the scope has
ended, also at the end of the body.  Nothing but the scope limits the wait for a
piece; the time limit of an exchange, if it is up within a body, shows as a piece
with which the body breaks off.
-/
import OciBlobs.Blob.Presence

namespace OciBlobs

open Http

/-- A response whose body is still to be read. -/
structure Download where
  response : Response
  scope : Scope

/-- What was read, and the failure that ended it, if it did not end well. -/
structure Reading where
  pieces : List Bytes := []
  failure : Option Failure := none

namespace Reading

def bytes (reading : Reading) : Bytes :=
  reading.pieces.flatten

/-- The same reading with a piece in front. -/
def after (piece : Bytes) (reading : Reading) : Reading :=
  { reading with pieces := piece :: reading.pieces }

end Reading

/-- Takes a piece that arrives, without a look at the scope before it. -/
def Http.Piece.receive (piece : Piece) (scope : Scope) : Act Bytes := do
  scope.await none piece.before
  match piece.data with
  | some data => pure data
  | none => .fail (.exchange .answerBody)

namespace Download

/-- The download, if its status says success. -/
def success (download : Download) : Except Failure Download :=
  match download.response.success with
  | .ok response => .ok { download with response := response }
  | .error failure => .error failure

/-- The next piece with what is then left, or nothing at the end. -/
def next (download : Download) : Act (Option (Bytes × Download)) :=
  download.scope.guarded
    (match download.response.body with
    | [] => pure none
    | piece :: rest => do
      let data ← piece.receive download.scope
      pure (some (data, { download with response := { download.response with body := rest } })))

/-- Piece after piece, at most `fuel` of them. -/
def nextUpTo : Nat → Download → Act Reading
  | 0, _ => pure {}
  | fuel + 1, download => do
    match ← download.next.attempt with
    | .ok none => pure {}
    | .ok (some (data, rest)) => Reading.after data <$> nextUpTo fuel rest
    | .error failure => pure { failure := some failure }

/-- Piece after piece, up to the end or the first failure; the end takes one
step more than there are pieces. -/
def pieces (download : Download) : Act Reading :=
  nextUpTo (download.response.body.length + 1) download

/-- The whole body at once: the scope is asked before the first piece only. -/
def whole (download : Download) : Act Bytes :=
  download.scope.guarded (List.flatten <$> download.response.body.mapM (·.receive download.scope))

def itemsOf (scope : Scope) : List Piece → Act (List (Except IoError Bytes))
  | [] => do
    match ← scope.check.attempt with
    | .ok () => pure []
    | .error failure => pure [.error (.carrying failure)]
  | piece :: rest => do
    match ← (scope.guarded (piece.receive scope)).attempt with
    | .ok data => (.ok data :: ·) <$> itemsOf scope rest
    | .error failure => pure [.error (.carrying failure)]

/-- The body as a stream of items, for code that knows only I/O errors. -/
def items (download : Download) : Act (List (Except IoError Bytes)) :=
  itemsOf download.scope download.response.body

def readingOf : List (Except IoError Bytes) → Reading
  | [] => {}
  | .ok data :: rest => .after data (readingOf rest)
  | .error error :: _ => { failure := some (.ofIo error) }

/-- What a body is copied into.  It takes a write at once, so that reads and writes
take turns and no octet is held back when a read fails. -/
structure Sink where
  /-- How many octets it takes; with none, all. -/
  room : Option Nat := none
  /-- The error of a write that goes beyond its room. -/
  full : IoError := .kind .writeZero

/-- The most that is written at once. -/
def writeSize : Nat := 8192

def writesOf (data : Bytes) : List Bytes :=
  if data.length ≤ writeSize then if data.isEmpty then [] else [data]
  else data.take writeSize :: writesOf (data.drop writeSize)
termination_by data.length
decreasing_by
  simp only [writeSize, List.length_drop] at *
  omega

def write (sink : Sink) : Nat → List Bytes → Reading
  | _, [] => {}
  | taken, data :: rest =>
    if sink.room.all (taken + data.length ≤ ·) then
      .after data (write sink (taken + data.length) rest)
    else { failure := some (.ofIo sink.full) }

/-- Copies pieces into a sink that has taken `taken` octets. -/
def copyFrom (scope : Scope) (sink : Sink) : Nat → List Piece → Act Reading
  | _, [] => do
    match ← scope.check.attempt with
    | .ok () => pure {}
    | .error failure => pure { failure := some (.ofIo (.carrying failure)) }
  | taken, piece :: rest => do
    match ← (scope.guarded (piece.receive scope)).attempt with
    | .ok data =>
      let written := write sink taken (writesOf data)
      match written.failure with
      | some _ => pure written
      | none => do
        let more ← copyFrom scope sink (taken + data.length) rest
        pure { more with pieces := written.pieces ++ more.pieces }
    | .error failure => pure { failure := some (.ofIo (.carrying failure)) }

/-- Copies the body into a sink; the pieces are the writes that it took. -/
def copy (download : Download) (sink : Sink) : Act Reading :=
  copyFrom download.scope sink 0 download.response.body

end Download

/-- Opens a blob for reading, whatever the status of the answer. -/
def Client.download (client : Client) (scope : Scope) (repository : String) (digest : Digest) :
    Act Download := do
  let url := client.address.blob repository digest
  client.trace "registry.blob.download" (Client.blobFields url repository digest)
  let response ← (client.wire.send scope { method := .get, url := url }).onFailure fun failure =>
    client.note .warning ("Failed to download blob " ++ digest.short ++ ": " ++ failure.message)
  if response.status.isSuccess then pure ()
  else
    client.note .detail ("Blob " ++ digest.short ++ " download returned status "
      ++ response.status.text)
  pure { response, scope }

end OciBlobs
