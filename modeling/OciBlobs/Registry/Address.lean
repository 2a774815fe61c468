/-
# `Registry.Address` — where a registry is, and the URLs below it

A registry is served below a base URL, which may have a path of its own.
Every URL of the registry is the base with a longer path: slashes at the end
of the base path do not count, and a query or fragment of the base is left
out.
-/
import OciBlobs.Digest
import OciBlobs.Url.Parser

namespace OciBlobs.Registry

def namesScheme : List Char → Bool
  | ':' :: '/' :: '/' :: _ => true
  | _ :: rest => namesScheme rest
  | [] => false

/-- A registry, known by its base URL, which has a host. -/
structure Address where
  base : Url
  hasHost : base.host?.isSome = true
deriving DecidableEq

namespace Address

/-- Reads an address; one without a scheme is served over `https`. -/
def parse (text : String) : Except Failure Address :=
  match Url.parse (if namesScheme text.toList then text else "https://" ++ text) with
  | .error fault => .error (.malformed fault.message)
  | .ok base =>
    if h : base.host?.isSome = true then .ok ⟨base, h⟩
    else .error (.malformed ("registry address has no host: " ++ text))

/-- The path of the base without slashes at its end. -/
def pathPrefix (address : Address) : List Char :=
  (address.base.path.render.reverse.dropWhile (· == '/')).reverse

/-- The URL of a path below the base. -/
def endpoint (address : Address) (path : List Char) : Url :=
  { address.base with query := none, fragment := none }.withPath (address.pathPrefix ++ path)

/-- The URL of a blob in a repository. -/
def blob (address : Address) (repository : String) (digest : Digest) : Url :=
  address.endpoint ("/v2/".toList ++ repository.toList ++ "/blobs/".toList ++ digest.chars)

/-- The URL at which uploads into a repository begin. -/
def uploads (address : Address) (repository : String) : Url :=
  address.endpoint ("/v2/".toList ++ repository.toList ++ "/blobs/uploads/".toList)

end Address

end OciBlobs.Registry
