/-
# `Blob.Presence` — whether a registry holds a blob

The question is one `HEAD` request.  Only two kinds of answer say something:
a success says whether the blob is there (status 200) or not, and 404 says
that it is not.  Everything else leaves the question open and is a failure.
-/
import OciBlobs.Client

namespace OciBlobs.Client

open Http

def blobFields (url : Url) (repository : String) (digest : Digest) : List (String × String) :=
  [("url", url.text), ("repository", repository), ("digest", digest.text)]

def holds (client : Client) (scope : Scope) (repository : String) (digest : Digest) :
    Act Bool := do
  let url := client.address.blob repository digest
  client.trace "registry.blob.check" (blobFields url repository digest)
  match ← (client.wire.sendForSuccess scope { method := .head, url := url }).attempt with
  | .ok response =>
    let found := response.status == Status.ok
    client.note .detail ("Blob " ++ digest.short
      ++ (if found then " exists" else " not reported as present")
      ++ " (status " ++ response.status.text ++ ")")
    pure found
  | .error failure =>
    if failure.isNotFound then do
      client.note .detail ("Blob " ++ digest.short ++ " does not exist in registry")
      pure false
    else do
      client.note .warning ("Could not determine whether blob " ++ digest.short
        ++ " exists: " ++ failure.message)
      .fail failure

end OciBlobs.Client
