/-
# `Failure` — why a registry operation did not succeed

Every operation fails with one value of `Failure`, which keeps the cause
and not only its text: callers ask for the status a registry answered with,
for whether a blob is known to be absent, and for whether they themselves
gave up.  A failure can travel inside an I/O error through code that knows
only those; `Failure.ofIo` takes it out again.
-/
import OciBlobs.Failure.System
import OciBlobs.Json.Fault
import OciBlobs.Http.Status

namespace OciBlobs

/-- How an exchange with the far side went wrong. -/
inductive ExchangeFault
  /-- No answer came: refused, closed or timed out. -/
  | unanswered (url : String)
  /-- More redirects than are followed. -/
  | redirects (url : String)
  /-- The request cannot be put on the wire. -/
  | unsendable (url : String)
  /-- The exchange settings themselves are unusable. -/
  | settings
  /-- The body of the request could not be produced. -/
  | requestBody
  /-- The body of the answer broke off. -/
  | answerBody
deriving DecidableEq, Repr

def ExchangeFault.message : ExchangeFault → String
  | .unanswered url => "error sending request for url (" ++ url ++ ")"
  | .redirects url => "error following redirect for url (" ++ url ++ ")"
  | .unsendable url => "builder error for url (" ++ url ++ ")"
  | .settings => "builder error"
  | .requestBody => "request or response body error"
  | .answerBody => "error decoding response body"

mutual

inductive Failure
  | exchange (fault : ExchangeFault)
  | cancelled
  | deadlineExceeded
  | status (code : Http.Status) (url : String)
  | malformed (text : String)
  | undecodable (fault : Json.Fault)
  | invalidDigest (digest reason : String)
  | settings (text : String)
  | io (error : IoError)
  | task (text : String)

/-- An I/O error: a system error number, a kind, a text, or a failure that
is passed through. -/
inductive IoError
  | system (number : Int32)
  | kind (kind : IoKind)
  | text (text : String)
  | carrying (failure : Failure)

end

instance : Inhabited Failure := ⟨.cancelled⟩

instance : Inhabited IoError := ⟨.kind .other⟩

mutual

def Failure.message : Failure → String
  | .exchange fault => "Network error: " ++ fault.message
  | .cancelled => "Request cancelled"
  | .deadlineExceeded => "Request deadline exceeded"
  | .status code url => "Registry returned HTTP " ++ code.text ++ " for " ++ url
  | .malformed text => "Parse error: " ++ text
  | .undecodable fault => "Decode error: " ++ fault.message
  | .invalidDigest digest reason => "Invalid digest '" ++ digest ++ "': " ++ reason
  | .settings text => "Configuration error: " ++ text
  | .io error => "IO error: " ++ error.message
  | .task text => "Background task failed: " ++ text

def IoError.message : IoError → String
  | .system number => systemMessage number ++ " (os error " ++ toString number.toInt ++ ")"
  | .kind kind => kind.description
  | .text text => text
  | .carrying failure => failure.message

end

namespace Failure

/-- The status the registry answered with, if that is what failed. -/
def status? : Failure → Option Http.Status
  | .status code _ => some code
  | _ => none

def isNotFound (failure : Failure) : Bool :=
  failure.status? == some Http.Status.notFound

/-- Whether the caller gave up: by cancelling or by its deadline. -/
def isCancelled : Failure → Bool
  | .cancelled | .deadlineExceeded => true
  | _ => false

/-- The failure an I/O error stands for: the one it carries, or itself. -/
def ofIo : IoError → Failure
  | .carrying failure => failure
  | error => .io error

end Failure

end OciBlobs
