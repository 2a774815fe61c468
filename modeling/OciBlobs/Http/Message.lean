/-
# `Http.Message` — requests, and what comes back

A body is a list of pieces, in the order in which they are sent or arrive.
A piece that arrives says what happens before it, so that a body that stalls
or breaks off is a value like any other.

A body that is sent may break off too.  The far side then has only a part of
it, and no request to answer, unless it gave its reply before the body had come
to that point: such a reply is `early`.
-/
import OciBlobs.Http.Header
import OciBlobs.Http.Status
import OciBlobs.Scope
import OciBlobs.Url.Basic

namespace OciBlobs.Http

inductive Method
  | get
  | head
  | post
  | put
deriving DecidableEq, Repr

def Method.name : Method → String
  | .get => "GET"
  | .head => "HEAD"
  | .post => "POST"
  | .put => "PUT"

structure Content where
  pieces : List Bytes
  /-- Whether it fails after its pieces instead of ending. -/
  breaks : Bool := false
  /-- Whether it can be produced a second time. -/
  repeatable : Bool := true
deriving DecidableEq, Repr

namespace Content

def ofBytes (bytes : Bytes) : Content :=
  { pieces := [bytes] }

/-- Content that is read while it is sent, once; a failed read breaks it. -/
def ofReads : List (Except IoError Bytes) → Content
  | [] => { pieces := [], repeatable := false }
  | .ok bytes :: rest => { ofReads rest with pieces := bytes :: (ofReads rest).pieces }
  | .error _ :: _ => { pieces := [], breaks := true, repeatable := false }

def bytes (content : Content) : Bytes :=
  content.pieces.flatten

end Content

structure Request where
  method : Method
  url : Url
  headers : List Header := []
  body : Option Content := none
deriving DecidableEq, Repr

/-- A piece of a body that arrives. -/
structure Piece where
  /-- What happens before it arrives. -/
  before : List Moment := []
  /-- Its octets; with none the body breaks off. -/
  data : Option Bytes
deriving DecidableEq, Repr

structure Answer where
  status : Status := .ok
  headers : List Header := []
  /-- The length of the body, if it is announced. -/
  length : Option Nat := none
  body : List Piece := []
deriving DecidableEq, Repr

/-- An answer and where it came from. -/
structure Response extends Answer where
  url : Url
deriving DecidableEq, Repr

/-- What becomes of a request. -/
inductive Reply.Ending
  /-- An answer, from the URL asked or from another. -/
  | answer (answer : Answer) (url : Option Url)
  | failure (failure : Failure)
  /-- The connection ends without an answer. -/
  | closed

/-- How the far side takes one request. -/
structure Reply where
  /-- What happens before anything comes back. -/
  before : List Moment := []
  ending : Reply.Ending
  /-- Whether it does not wait for the end of the body, so that a body that breaks
  off comes too late to matter. -/
  early : Bool := false

/-- Whether a request comes through to a far side that has these replies left. -/
def Request.comesThrough (request : Request) (replies : List Reply) : Bool :=
  !request.body.any (·.breaks) || replies.head?.any (·.early)

/-- What comes back to a request in the end. -/
def Reply.Ending.result (request : Request) : Reply.Ending → Except Failure Response
  | .answer given url => .ok { given with url := url.getD request.url }
  | .failure cause => .error cause
  | .closed => .error (.exchange (.unanswered request.url.text))

end OciBlobs.Http
