/-
# `Command` — carrying out what a command line asks for

A run checks everything that it can check by itself (settings, address,
credentials, digests, the file to push) before it sends anything.  What it
answers goes to standard output, what it remarks to standard error.
-/
import OciBlobs.Blob.Document
import OciBlobs.Blob.Upload
import OciBlobs.CommandLine
import OciBlobs.Decimal.Tenths
import OciBlobs.Log.Size

namespace OciBlobs

open Http

namespace CommandLine

/-- The log of a run: a blob that goes to standard output has it to itself. -/
def logger (line : CommandLine) : Log.Logger :=
  let base := if line.quiet then Log.Logger.newQuiet else Log.Logger.new line.verbose
  match line.command with
  | .pull _ _ none => { base with stderrOnly := true }
  | _ => base

def answer (text : String) : Act Unit :=
  .print (Utf8.ofString (text ++ "\n"))

def elapsedText (nanos : Nat) : String :=
  let hundredths := Decimal.roundHalfEven nanos 10000000
  let rest := hundredths % 100
  toString (hundredths / 100) ++ "." ++ (if rest < 10 then "0" else "") ++ toString rest

/-- Copies a download into a new or emptied file, which takes each write at once;
tells how much was written. -/
def saveAs (download : Download) (path : String) : Act Nat := do
  let run ← Act.state
  let created ← .ofExcept ((run.files.create path).mapError .io)
  .change fun run => { run with files := created.1 }
  let reading ← download.copy {}
  .putFile created.2 (.file reading.bytes)
  match reading.failure with
  | some failure => .fail failure
  | none => pure reading.bytes.length

/-- Copies a download to standard output; tells how much was written. -/
def printOut (download : Download) : Act Nat := do
  let reading ← download.copy {}
  .print reading.bytes
  match reading.failure with
  | some failure => .fail failure
  | none => pure reading.bytes.length

/-- Downloads a blob to a file or to standard output. -/
def pull (line : CommandLine) (client : Client) (scope : Scope) (repository : String)
    (digest : Digest) (output : Option String) : Act Unit := do
  let download ← client.download scope repository digest
  let download ← .ofExcept download.success
  let count ← match output with
    | some path => saveAs download path
    | none => printOut download
  .note line.logger
    ⟨.success, "Pulled blob " ++ digest.short ++ " (" ++ Size.render count ++ ")"⟩

/-- The digest that content is pushed under: the one declared, or its own. -/
def digestToPush (files : Files) (path : String) (declared : Option String) :
    Except Failure Digest :=
  match declared with
  | some text => Digest.parse text
  | none => do
    let entry ← (files.open? path).mapError .io
    (Digest.ofReads entry.reads).mapError .io

def push (line : CommandLine) (client : Client) (scope : Scope) (repository path : String)
    (declared : Option String) (skipExisting : Bool) : Act Unit := do
  let run ← Act.state
  let digest ← .ofExcept (digestToPush run.files path declared)
  let entry ← .ofExcept ((run.files.open? path).mapError .io)
  let isThere ← if skipExisting then client.holds scope repository digest else pure false
  if isThere then
    .note line.logger ⟨.info, "Blob " ++ digest.short ++ " already exists, skipping"⟩
  else
    client.upload scope repository digest (.ofReads entry.reads)
    .note line.logger
      ⟨.success, "Pushed " ++ path ++ " (" ++ Size.render entry.size ++ ") as " ++ digest.text⟩

def execute (line : CommandLine) (client : Client) (scope : Scope) : Act Unit :=
  match line.command with
  | .exists repository digest => do
    let digest ← .ofExcept (Digest.parse digest)
    let found ← client.holds scope repository digest
    answer (if found then "true" else "false")
  | .pull repository digest output => do
    let digest ← .ofExcept (Digest.parse digest)
    line.pull client scope repository digest output
  | .push repository file digest skipExisting =>
    line.push client scope repository file digest skipExisting
  | .config repository digest => do
    let digest ← .ofExcept (Digest.parse digest)
    let document ← client.document .document scope repository digest
    answer (String.ofList document.pretty)

/-- Runs a command line in a scope; `reaches` says which URLs a peer takes
connections for. -/
def run (line : CommandLine) (environment : Environment) (reaches : Url → Bool) (scope : Scope) :
    Act Unit := do
  let start ← Act.state
  let settings ← .ofExcept (line.settings environment)
  let client ← .ofExcept (Client.ofSettings settings reaches (some line.logger))
  let scope ← scope.fork
  let scope ← match settings.activeTimeout with
    | some timeout => scope.limited timeout
    | none => pure scope
  line.execute client scope
  let finish ← Act.state
  .note line.logger
    ⟨.detail, "Finished in " ++ elapsedText (finish.now - start.now).toNat ++ "s"⟩

end CommandLine

end OciBlobs
