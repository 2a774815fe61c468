/-
# `Settings` — what a client is configured with

Settings come from a document, from the environment, or from the command
line over the environment.  As a document they are a record in which only
the address is required; a timeout of `null` means none, and a timeout that
is left out means the usual one.
-/
import OciBlobs.Duration
import OciBlobs.Failure
import OciBlobs.Text.Natural

namespace OciBlobs

structure Credentials where
  username : Option String := none
  password : Option String := none
  token : Option String := none
deriving DecidableEq, Repr

namespace Credentials

def basic (username password : String) : Credentials :=
  { username := some username, password := some password }

def bearer (token : String) : Credentials :=
  { token := some token }

/-- Whether there is a complete username and password, or a token. -/
def areComplete (credentials : Credentials) : Bool :=
  (credentials.username.isSome && credentials.password.isSome) || credentials.token.isSome

end Credentials

/-- What a client is configured with. -/
structure Settings where
  address : String
  credentials : Credentials := {}
  skipTls : Bool := false
  timeout : Option Duration
  userAgent : Option String := none
  tokenHeader : String
  verbose : Bool := false
deriving DecidableEq, Repr

namespace Settings

/-- The header in which registries send upload session tokens. -/
def defaultTokenHeader : String := "Request-Token"

def defaultTimeout : Duration :=
  .wholeSeconds 300 (by decide)

/-- Settings for an address, all else as usual. -/
def new (address : String) : Settings where
  address := address
  timeout := some defaultTimeout
  tokenHeader := defaultTokenHeader

/-- The timeout in force: one of zero is none. -/
def activeTimeout (settings : Settings) : Option Duration :=
  settings.timeout.filter fun timeout => !timeout.isZero

end Settings

abbrev Environment := List (String × String)

def Environment.get? (environment : Environment) (name : String) : Option String :=
  environment.lookup name

/-- Settings from the environment; only the address is required. -/
def Settings.ofEnvironment (environment : Environment) : Except Failure Settings := do
  let some address := environment.get? "REGISTRY_ADDRESS"
    | .error (.settings "REGISTRY_ADDRESS not set")
  let settings := Settings.new address
  let timeout ← match environment.get? "REGISTRY_TIMEOUT" with
    | none => pure settings.timeout
    | some text =>
      match (Text.natural64? text).bind Duration.ofSeconds? with
      | some duration => pure (some duration)
      | none => .error (.settings ("REGISTRY_TIMEOUT is not a number: " ++ text))
  pure { settings with
    credentials := {
      username := environment.get? "REGISTRY_USERNAME"
      password := environment.get? "REGISTRY_PASSWORD"
      token := environment.get? "REGISTRY_TOKEN" }
    skipTls := match environment.get? "SKIP_TLS" with
      | some value => value == "true" || value == "1"
      | none => false
    timeout := timeout
    tokenHeader := (environment.get? "REGISTRY_UPLOAD_TOKEN_HEADER").getD settings.tokenHeader }

end OciBlobs
