/-
# `Registry.Location` — where a registry says an upload goes on

A registry names the place of an upload relative to the request that was
answered.  To close the upload the digest is put into the query of that
place, once, after everything else that the registry put there.
-/
import OciBlobs.Digest
import OciBlobs.Text.Blank
import OciBlobs.Url.Parser

namespace OciBlobs.Registry

/-- The name of the query parameter that closes an upload. -/
def digestKey : List Char := ['d', 'i', 'g', 'e', 's', 't']

/-- The URL that a location names, seen from the URL of a request. -/
def resolveLocation (request : Url) (location : String) : Except Failure Url :=
  if location.toList.all Text.isBlank then
    .error (.malformed "empty Location header in upload response")
  else
    match request.join location with
    | .ok url => .ok url
    | .error fault =>
      .error (.malformed ("invalid Location '" ++ location ++ "': " ++ fault.message))

/-- A location with a digest as the last pair of its query. -/
def withDigest (location : Url) (digest : Digest) : Url :=
  location.withPairs
    (location.pairs.filter (fun pair => pair.1 != digestKey) ++ [(digestKey, digest.chars)])

end OciBlobs.Registry
