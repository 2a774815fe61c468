/-
# `Http.Exchange` — requests over HTTP

An exchange puts its credentials on every request that has none of its own,
follows redirects, and gives up after a time.  Credentials stay with the
host and port they were meant for: a redirect to another place goes on
without them.

The time of an exchange goes on while the body of the answer arrives.  What is
here counts it up to the head of the answer; a body that it runs out on is one
that breaks off at the piece that would have come too late (`Piece.data`).
-/
import OciBlobs.Bytes.Base64
import OciBlobs.Run.Wait
import OciBlobs.Settings
import OciBlobs.Url.Parser

namespace OciBlobs.Http

def authorizationName : String := "authorization"

def contentTypeName : String := "content-type"

def locationName : String := "location"

def userAgentName : String := "user-agent"

structure Exchange where
  authorization : Option Bytes := none
  userAgent : Option Bytes := none
  timeout : Option Duration := none
  /-- Whether a peer takes connections for a URL. -/
  reaches : Url → Bool

namespace Exchange

/-- The text of credentials: a complete username and password before a token. -/
def credentialsText? (credentials : Credentials) : Option String :=
  match credentials.username, credentials.password, credentials.token with
  | some username, some password, _ =>
    some ("Basic " ++
      String.ofList (Base64.encode (Utf8.ofString (username ++ ":" ++ password))))
  | _, _, some token => some ("Bearer " ++ token)
  | _, _, none => none

def authorizationOf (credentials : Credentials) : Except Failure (Option Bytes) :=
  match credentialsText? credentials with
  | none => .ok none
  | some text =>
    match Header.value? text with
    | some value => .ok (some value)
    | none =>
      .error (.settings "invalid credentials header: failed to parse header value")

/-- An exchange as settings ask for it; the user agent is looked at first. -/
def ofSettings (settings : Settings) (reaches : Url → Bool) : Except Failure Exchange := do
  let userAgent ← match settings.userAgent with
    | none => pure none
    | some text =>
      match Header.value? text with
      | some value => pure (some value)
      | none => .error (.exchange .settings)
  let authorization ← authorizationOf settings.credentials
  pure { authorization, userAgent, timeout := settings.activeTimeout, reaches }

/-- Characters of a domain that cannot be put on the wire. -/
def isUnsendable (c : Char) : Bool :=
  c == '"' || c == Char.ofNat 0x60 || c == '\x7b' || c == '\x7d'

def canSend (url : Url) : Bool :=
  let scheme := String.ofList url.scheme
  (scheme == "http" || scheme == "https") && url.chars.length ≤ 65534
    && match url.host? with
      | some (.domain name) => !name.any isUnsendable
      | _ => true

/-- A request with the exchange's own headers; its credentials and user agent
give way to those of the request. -/
def dress (exchange : Exchange) (request : Request) : Request :=
  let add (name : String) (value : Option Bytes) (headers : List Header) : List Header :=
    match value, Header.first? headers name with
    | some value, none => headers ++ [⟨name, value⟩]
    | _, _ => headers
  { request with
    headers := add userAgentName exchange.userAgent
      (add authorizationName exchange.authorization request.headers) }

/-- A request as the peer sees it: without fragment, with an empty body for
none. -/
def onWire (request : Request) : Request :=
  { request with
    url := { request.url with fragment := none }
    body := some (request.body.getD { pieces := [] }) }

/-- A request that goes on at another URL; to another host or port it goes
without credentials. -/
def moveTo (request : Request) (url : Url) : Request :=
  let stays := url.host? = request.url.host? ∧ url.effectivePort? = request.url.effectivePort?
  { request with
    url := url
    headers := if stays then request.headers else Header.without request.headers authorizationName }

/-- A request that asks instead of telling. -/
def toQuestion (request : Request) : Request :=
  { request with
    method := if request.method = .head then .head else .get
    headers := Header.without request.headers contentTypeName
    body := none }

/-- The URL that an answer points to. -/
def target? (request : Request) (answer : Answer) : Option Url := do
  let value ← Header.first? answer.headers locationName
  let text ← Utf8.toString? value
  (request.url.join text).toOption

/-- The request that an answer redirects to. -/
def redirected? (request : Request) (answer : Answer) : Option Request :=
  match answer.status.code with
  | 301 | 302 | 303 => (target? request answer).map (moveTo (toQuestion request))
  | 307 | 308 =>
    if request.body.all (·.repeatable) then (target? request answer).map (moveTo request) else none
  | _ => none

/-- What arrives of an answer: nothing of a body when only heads were asked
for. -/
def received (request : Request) (answer : Answer) : Response :=
  { answer with
    body := if request.method = .head then [] else answer.body
    url := request.url }

def redirectLimit : Nat := 10

def unanswered (request : Request) : Failure :=
  .exchange (.unanswered request.url.text)

/-- Puts one request on the wire and waits for what comes back. -/
def ask (exchange : Exchange) (scope : Scope) (giveUp : Option Int) (request : Request) :
    Act Answer := do
  if !canSend request.url then .fail (.exchange (.unsendable request.url.text))
  else if !exchange.reaches request.url then .fail (unanswered request)
  else
    let reply ← .deliver (onWire request) { ending := .closed } (unanswered request)
    scope.await (giveUp.map (⟨·, unanswered request⟩)) reply.before
    let response ← .ofExcept (reply.ending.result request)
    pure response.toAnswer

/-- Sends a request and as many more as it takes to follow redirects. -/
def follow (exchange : Exchange) (scope : Scope) (giveUp : Option Int) :
    Nat → Request → Act Response
  | 0, request => do
    let answer ← exchange.ask scope giveUp request
    match redirected? request answer with
    | none => pure (received request answer)
    | some _ => .fail (.exchange (.redirects request.url.text))
  | remaining + 1, request => do
    let answer ← exchange.ask scope giveUp request
    match redirected? request answer with
    | none => pure (received request answer)
    | some next => exchange.follow scope giveUp remaining next

def send (exchange : Exchange) (scope : Scope) (request : Request) : Act Response := do
  let run ← Act.state
  exchange.follow scope (exchange.timeout.map fun timeout => run.now + timeout.toNanos)
    redirectLimit (exchange.dress request)

end Exchange

end OciBlobs.Http
