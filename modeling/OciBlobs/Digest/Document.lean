/-
# `Digest.Document` — digests as documents

A digest is written as its text.  Any text may stand where a digest is read, and
one that is no digest is a fault of the document, with the message of the
failure.
-/
import OciBlobs.Digest
import OciBlobs.Json.Decoder

namespace OciBlobs.Digest

open Json

def toJson (digest : Digest) : Value :=
  .text digest.text

/-- The digest that a text of a document writes. -/
def ofDocumentText (text : String) : Except Fault Digest :=
  match parse text with
  | .ok digest => .ok digest
  | .error failure => .error (.content failure.message)

def decoder : Decoder Digest :=
  .checked .text ofDocumentText

end OciBlobs.Digest
