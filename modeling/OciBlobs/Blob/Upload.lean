/-
# `Blob.Upload` — uploads in one go

An upload is two requests.  A `POST` without content opens a session, whose
place and token the answer names; a `PUT` of the whole content to that place,
with the digest in its query, closes it.  The upload is done once the `PUT`
is answered, whatever the status.
-/
import OciBlobs.Blob.Presence
import OciBlobs.Registry.Location

namespace OciBlobs

open Http

/-- An upload that has been opened. -/
structure UploadSession where
  /-- Where the content is sent. -/
  location : Url
  /-- Empty when the registry sent none. -/
  token : String
deriving DecidableEq, Repr

namespace UploadSession

def contentType : Header :=
  ⟨contentTypeName, Bytes.ofAscii "application/octet-stream"⟩

def tokenOf (tokenHeader : String) (answer : Answer) : String :=
  ((Header.first? answer.headers tokenHeader).bind Header.text?).getD ""

def locationOf (response : Response) : Except Failure Url :=
  match Header.first? response.headers locationName with
  | none => .error (.malformed "missing Location header in upload response")
  | some value =>
    match Header.text? value with
    | none =>
      .error (.malformed "invalid Location header: failed to convert header to a str")
    | some text => Registry.resolveLocation response.url text

def ofResponse (tokenHeader : String) (response : Response) : Except Failure UploadSession := do
  let location ← locationOf response
  pure { location, token := tokenOf tokenHeader response.toAnswer }

/-- The credentials of a session: its token, which may be empty. -/
def authorization (session : UploadSession) : Except Failure Header :=
  match Header.value? ("Bearer " ++ session.token) with
  | some value => .ok ⟨authorizationName, value⟩
  | none => .error (.malformed "invalid upload token: failed to parse header value")

/-- The request that closes a session: the content, under the digest that it
is declared to have. -/
def closingRequest (session : UploadSession) (digest : Digest) (content : Content) :
    Except Failure Request := do
  let authorization ← session.authorization
  pure {
    method := .put
    url := Registry.withDigest session.location digest
    headers := [contentType, authorization]
    body := some content }

end UploadSession

namespace Client

def openingRequest (client : Client) (repository : String) : Request where
  method := .post
  url := client.address.uploads repository
  headers := [UploadSession.contentType]
  body := some (.ofBytes [])

def initiate (client : Client) (scope : Scope) (repository : String) : Act UploadSession := do
  let request := client.openingRequest repository
  client.trace "registry.blob.initiate-upload"
    [("url", request.url.text), ("repository", repository)]
  let response ← (client.wire.sendForSuccess scope request).onFailure fun failure =>
    client.note .warning ("Failed to start upload session in " ++ repository ++ ": "
      ++ failure.message)
  let session ← .ofExcept (UploadSession.ofResponse client.tokenHeader response)
  client.note .detail ("Upload session started, location: " ++ session.location.text)
  pure session

/-- Sends the content to a session with the digest it is declared to have. -/
def finalize (client : Client) (scope : Scope) (session : UploadSession) (repository : String)
    (digest : Digest) (content : Content) : Act Unit := do
  let url := Registry.withDigest session.location digest
  client.trace "registry.blob.upload" (blobFields url repository digest)
  let request ← .ofExcept (session.closingRequest digest content)
  let response ← (client.wire.send scope request).onFailure fun failure =>
    client.note .warning ("Failed to upload blob " ++ digest.short ++ ": " ++ failure.message)
  if response.status.isSuccess then
    client.note .detail ("Blob " ++ digest.short ++ " uploaded to " ++ repository)
  else
    client.note .warning ("Registry answered " ++ response.status.text ++ " to upload of blob "
      ++ digest.short)

def upload (client : Client) (scope : Scope) (repository : String) (digest : Digest)
    (content : Content) : Act Unit := do
  let session ← client.initiate scope repository
  client.finalize scope session repository digest content

/-- Uploads content that is read while it is sent. -/
def uploadReads (client : Client) (scope : Scope) (repository : String) (digest : Digest)
    (reads : List (Except IoError Bytes)) : Act Unit :=
  client.upload scope repository digest (.ofReads reads)

end Client

end OciBlobs
