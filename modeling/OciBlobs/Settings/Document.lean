/-
# `Settings.Document` — settings as a document

`toJson` writes the fields in their order, with `null` for what is not set;
`decoder` reads them back, in any order and with defaults for what is left
out.
-/
import OciBlobs.Settings

namespace OciBlobs

open Json

def optionalText : Option String → Value
  | some s => .text s
  | none => .null

namespace Credentials

def toJson (credentials : Credentials) : Value :=
  .object [("username", optionalText credentials.username),
    ("password", optionalText credentials.password),
    ("token", optionalText credentials.token)]

structure Given where
  username : Option (Option String) := none
  password : Option (Option String) := none
  token : Option (Option String) := none

/-- Credentials as a record; what is not given is not set. -/
def record : Decoder.Record Given Credentials where
  expected := "struct AuthConfig"
  fullLength := "struct AuthConfig with 3 elements"
  fields := [
    .of "username" (.optional .text) (·.username)
      (fun given s => { given with username := some s }) false,
    .of "password" (.optional .text) (·.password)
      (fun given s => { given with password := some s }) false,
    .of "token" (.optional .text) (·.token)
      (fun given s => { given with token := some s }) false]
  blank := {}
  complete given := .ok ⟨given.username.join, given.password.join, given.token.join⟩
  refuse := none

def decoder : Decoder Credentials :=
  record.decoder

end Credentials

namespace Settings

def toJson (settings : Settings) : Value :=
  .object [("registry_url", .text settings.address),
    ("auth", settings.credentials.toJson),
    ("skip_tls", .boolean settings.skipTls),
    ("timeout", match settings.timeout with
      | some timeout => timeout.toJson
      | none => .null),
    ("user_agent", optionalText settings.userAgent),
    ("upload_token_header", .text settings.tokenHeader),
    ("verbose", .boolean settings.verbose)]

def render (settings : Settings) : String :=
  String.ofList settings.toJson.compact

structure Given where
  address : Option String := none
  credentials : Option Credentials := none
  skipTls : Option Bool := none
  timeout : Option (Option Duration) := none
  userAgent : Option (Option String) := none
  tokenHeader : Option String := none
  verbose : Option Bool := none

/-- Settings as a record; only the address has to be given. -/
def record : Decoder.Record Given Settings where
  expected := "struct ClientConfig"
  fullLength := "struct ClientConfig with 7 elements"
  fields := [
    .of "registry_url" .text (·.address)
      (fun given s => { given with address := some s }) false,
    .of "auth" Credentials.decoder (·.credentials)
      (fun given c => { given with credentials := some c }) true,
    .of "skip_tls" .boolean (·.skipTls)
      (fun given b => { given with skipTls := some b }) true,
    .of "timeout" (.optional Duration.decoder) (·.timeout)
      (fun given d => { given with timeout := some d }) true,
    .of "user_agent" (.optional .text) (·.userAgent)
      (fun given s => { given with userAgent := some s }) true,
    .of "upload_token_header" .text (·.tokenHeader)
      (fun given s => { given with tokenHeader := some s }) true,
    .of "verbose" .boolean (·.verbose)
      (fun given b => { given with verbose := some b }) true]
  blank := {}
  complete given :=
    match given.address with
    | none => .error (.missingField "registry_url")
    | some address => .ok {
        address := address
        credentials := given.credentials.getD {}
        skipTls := given.skipTls.getD false
        timeout := given.timeout.getD (some defaultTimeout)
        userAgent := given.userAgent.join
        tokenHeader := given.tokenHeader.getD defaultTokenHeader
        verbose := given.verbose.getD false }
  refuse := none

def decoder : Decoder Settings :=
  record.decoder

end Settings

end OciBlobs
