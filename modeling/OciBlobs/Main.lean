/-
# `Main` — the program

A run is a function of the replies of the far side.  The program begins with
no replies and carries the run out; when the run hands over a request that
has no reply yet, it sends that request, adds what came back, and carries the
run out again.  What the last of these runs put out is what is shown.
-/
import OciBlobs.Command
import OciBlobs.Http.Connection
import Std.Async.DNS
import Std.Async.TCP
import Std.Async.Timer

namespace OciBlobs.Program

open Std.Async Std.Net

def variableNames : List String :=
  ["REGISTRY_ADDRESS", "REGISTRY_USERNAME", "REGISTRY_PASSWORD", "REGISTRY_TOKEN",
    "REGISTRY_TIMEOUT", "SKIP_TLS", "REGISTRY_UPLOAD_TOKEN_HEADER"]

/-- The settings in the environment of the program. -/
def environment : IO Environment :=
  variableNames.filterMapM fun name => do
    return (← IO.getEnv name).map (name, ·)

/-- What a path of the file system leads to. -/
def entryAt (path : String) : IO (Option Entry) := do
  try
    let content ← IO.FS.readBinFile path
    return some (.file content.toList)
  catch
    | .noFileOrDirectory _ _ _ => return none
    | .inappropriateType _ 21 _ => return some .directory
    | .inappropriateType _ _ _ => return none
    | error => throw error

/-- A path and the paths of what lies on its way, from the outside in. -/
def leadingPaths (path : String) : List String :=
  let names := Text.cutAt '/' path.toList
  let paths := (List.range names.length).map fun last =>
    String.ofList (List.intercalate ['/'] (names.take (last + 1)))
  paths.filter fun path => !path.isEmpty

/-- Files with what a path of the file system leads to and leads through. -/
def filesOn (path : String) : IO Files :=
  (leadingPaths path).foldlM (fun (files : Files) path => do
    match ← entryAt path with
    | some entry =>
      let names := (Text.cutAt '/' path.toList).map String.ofList
      return files.lay (Files.startOf names) names entry
    | none => return files) {}

/-- The files that a command can see. -/
def filesFor : Command → IO Files
  | .push _ file _ _ => filesOn file
  | .pull _ _ (some path) => filesOn path
  | _ => return {}

/-- Sends octets to one of the addresses of a host and gathers what comes
back until the far side closes. -/
def converse (host : String) (port : UInt16) (octets : ByteArray) : Async ByteArray := do
  let addresses ← DNS.getAddrInfo host ""
  let mut reached : Option TCP.Socket.Client := none
  for address in addresses do
    if reached.isNone then
      try
        let socket ← TCP.Socket.Client.mk
        socket.connect (match address with
          | .v4 address => .v4 ⟨address, port⟩
          | .v6 address => .v6 ⟨address, port⟩)
        reached := some socket
      catch _ => pure ()
  let some socket := reached | throw (IO.userError "no address answers")
  socket.send octets
  let mut gathered := ByteArray.empty
  repeat
    match ← (try socket.recv? 65536 catch _ => pure none) with
    | some more => gathered := gathered ++ more
    | none => break
  return gathered

def hostName (url : Url) : String :=
  String.ofList (((url.host?.map (·.render)).getD []).filter fun c => c != '[' && c != ']')

/-- Sends a request and tells what became of it, and how long that took. -/
def exchange (timeout : Option Duration) (request : Http.Request) : IO Http.Reply := do
  let start ← IO.monoNanosNow
  let octets := ByteArray.mk request.octets.toArray
  let port := UInt16.ofNat (request.url.effectivePort?.getD 80)
  let talk : Async (Option ByteArray) :=
    try some <$> converse (hostName request.url) port octets
    catch _ => return some .empty
  let gathered ← Async.block (match timeout with
    | some timeout => Async.race talk (do
        sleep (.ofNat (timeout.toNanos / 1000000))
        return none)
    | none => talk)
  let finish ← IO.monoNanosNow
  match gathered with
  | none => return { before := [.stall], ending := .closed }
  | some gathered =>
    return {
      before := [.pass (finish - start)]
      ending :=
        match Http.Answer.ofOctets? (request.method = .head) gathered.toList with
        | some answer => .answer answer none
        | none => .closed }

def requestLimit : Nat := 100

def carryOut (line : CommandLine) (environment : Environment) (files : Files) :
    Nat → List Http.Reply → IO (Outcome Unit × Run)
  | remaining, replies => do
    let reaches (url : Url) : Bool := url.scheme = ['h', 't', 't', 'p']
    let result := line.run environment reaches { token := [0] }
      { fresh := 1, replies := replies, files := files }
    match remaining, result.2.sent[replies.length]? with
    | remaining + 1, some request => do
      let timeout := (line.settings environment).toOption.bind (·.activeTimeout)
      let reply ← exchange timeout request
      carryOut line environment files remaining (replies ++ [reply])
    | _, _ => return result

def present (output : List Output) : IO Unit := do
  for piece in output do
    match piece with
    | .stdout bytes =>
      let stream ← IO.getStdout
      stream.write (ByteArray.mk bytes.toArray)
      stream.flush
    | .stderr bytes => (← IO.getStderr).write (ByteArray.mk bytes.toArray)
    | .kept _ => pure ()

/-- Writes the file that a command made, if it made one. -/
def save (command : Command) (files : Files) : IO Unit := do
  match command with
  | .pull _ _ (some path) =>
    match files.open? path with
    | .ok (.file content) => IO.FS.writeBinFile path (ByteArray.mk content.toArray)
    | _ => pure ()
  | _ => pure ()

def help : String :=
  "Move blobs to and from a Docker/OCI registry

Usage: blob-transfer [OPTIONS] <COMMAND>

Commands:
  exists <REPOSITORY> <DIGEST>         Check whether a blob exists
  pull <REPOSITORY> <DIGEST>           Download a blob to a file or stdout
    -o, --output <OUTPUT>              Destination file (stdout when omitted)
  push <REPOSITORY> <FILE>             Upload a file as a blob
    --digest <DIGEST>                  Declared digest (sha256 of the file when omitted)
    --skip-existing                    Skip the upload when the registry already has the blob
  config <REPOSITORY> <DIGEST>         Download a JSON config blob and print it

Options:
  -r, --registry <REGISTRY>            Registry base URL, e.g. https://registry.example.com
  -u, --username <USERNAME>            Registry username
  -p, --password <PASSWORD>            Registry password
      --token <TOKEN>                  Bearer token used instead of username/password
  -k, --skip-tls                       Skip TLS verification
  -t, --timeout <TIMEOUT>              Timeout in seconds for each operation (0 disables it)
  -v, --verbose                        Verbose output
  -q, --quiet                          Quiet mode (errors only)
  -h, --help                           Print help
  -V, --version                        Print version"

/-- What is wrong with a command line. -/
def complaint : CommandLine.Usage → String
  | .missingCommand => "a command is required"
  | .unknownCommand => "unrecognized command"
  | .unknownArgument => "unexpected argument"
  | .missingArgument => "a required argument was not provided"
  | .missingValue => "a value is required"
  | .invalidValue => "invalid value"
  | .unneededValue => "unexpected value"
  | .conflict => "an argument cannot be used with another one"
  | .help | .version | .nothingGiven => ""

/-- Answers a command line that is not run. -/
def explain (usage : CommandLine.Usage) : IO UInt32 := do
  match usage with
  | .help =>
    IO.println help
    return 0
  | .version =>
    IO.println "blob-transfer 0.1.0"
    return 0
  | .nothingGiven =>
    IO.eprintln help
    return 2
  | usage =>
    IO.eprintln ("error: " ++ complaint usage ++ "\n\nFor more information, try '--help'.")
    return 2

/-- Runs a command line; tells how the program ends. -/
def start (line : CommandLine) : IO UInt32 := do
  let environment ← environment
  let files ← filesFor line.command
  let (outcome, run) ← carryOut line environment files requestLimit []
  if run.files.entries ≠ files.entries then save line.command run.files
  present run.output
  match outcome with
  | .ok () => return 0
  | .failed failure =>
    IO.eprintln ("Error: " ++ failure.message)
    return 1
  | .stuck => return 1
  | .overflow =>
    IO.eprintln Scope.overflowMessage
    return 101

end OciBlobs.Program

def main (arguments : List String) : IO UInt32 :=
  match OciBlobs.CommandLine.parse arguments with
  | .ok line => OciBlobs.Program.start line
  | .error usage => OciBlobs.Program.explain usage
