/-
# `Client` — a client of one registry

A client is an address, a wire, a log and the name of the header in which
the registry sends upload tokens.  All of it is fixed when the client is
built, and nothing else is shared between calls.
-/
import OciBlobs.Registry.Address
import OciBlobs.Wire

namespace OciBlobs

structure Client where
  address : Registry.Address
  wire : Wire
  logger : Log.Logger
  /-- In lower case. -/
  tokenHeader : String

namespace Client

/-- A client with settings, over a wire that is made last. -/
def build (settings : Settings) (wire : Except Failure Wire) (logger : Option Log.Logger) :
    Except Failure Client := do
  let address ← Registry.Address.parse settings.address
  let tokenHeader ← match Http.Header.name? settings.tokenHeader with
    | some name => pure name
    | none =>
      .error (.settings ("invalid upload token header '" ++ settings.tokenHeader
        ++ "': invalid HTTP header name"))
  let wire ← wire
  pure {
    address, wire, tokenHeader
    logger := logger.getD (Log.Logger.new settings.verbose) }

/-- A client over an HTTP exchange as the settings ask for it. -/
def ofSettings (settings : Settings) (reaches : Url → Bool) (logger : Option Log.Logger) :
    Except Failure Client :=
  build settings (.http <$> Http.Exchange.ofSettings settings reaches) logger

def note (client : Client) (level : Log.Level) (text : String) : Act Unit :=
  .note client.logger ⟨level, text⟩

def trace (client : Client) (name : String) (fields : List (String × String)) : Act Unit :=
  .note client.logger (Log.trace name fields)

end Client

end OciBlobs
