/-
# `Blob.Document` — blobs that are documents

A document is decoded while it arrives: a piece is taken only when the
decoder cannot go on without it.  A body that breaks off is never mistaken
for a document, nor for a faulty one, unless what had arrived before was at
fault whatever came after it.
-/
import OciBlobs.Blob.Download
import OciBlobs.Json.Decoder

namespace OciBlobs

open Http

namespace Download

variable {α : Type}

/-- What the decoder comes to when the body fails after the octets `seen`.  It
knows only I/O errors; the failure is taken out of its error again, unless it
has found the octets at fault before. -/
def stopped (decoder : Json.Decoder α) (seen : Bytes) (failure : Failure) :
    Act (Except Json.Fault α) :=
  let error := IoError.carrying failure
  match decoder.brokenOff seen with
  | .error fault => if fault.cause = .unread then .fail (.ofIo error) else pure (.error fault)
  | .ok _ => .fail (.ofIo error)

/-- Decodes pieces that follow the octets `seen`. -/
def decodeFrom (decoder : Json.Decoder α) (scope : Scope) :
    Bytes → List Piece → Act (Except Json.Fault α)
  | seen, [] => pure (decoder.ofStream seen)
  | seen, piece :: rest =>
    match decoder.settled? seen with
    | some outcome => pure outcome
    | none => do
      match ← (scope.guarded (piece.receive scope)).attempt with
      | .ok data => decodeFrom decoder scope (seen ++ data) rest
      | .error failure => stopped decoder seen failure

/-- Decodes the body; whoever waits for that is told first that the scope has
ended. -/
def decode (download : Download) (decoder : Json.Decoder α) : Act (Except Json.Fault α) :=
  download.scope.guarded do
    let outcome ← (decodeFrom decoder download.scope [] download.response.body).attempt
    download.scope.check
    .ofExcept outcome

end Download

/-- Downloads a blob and decodes it as a document. -/
def Client.document {α : Type} (client : Client) (decoder : Json.Decoder α) (scope : Scope)
    (repository : String) (digest : Digest) : Act α := do
  let download ← client.download scope repository digest
  match ← download.decode decoder with
  | .ok a => pure a
  | .error fault => do
    client.note .warning ("Blob " ++ digest.short ++ " is not valid JSON: " ++ fault.message)
    .fail (.undecodable fault)

end OciBlobs
