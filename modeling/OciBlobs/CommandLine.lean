/-
# `CommandLine` — what a command line asks for

Options behind the command count before those in front of it, and both
before the environment.
-/
import OciBlobs.CommandLine.Reader
import OciBlobs.Settings

namespace OciBlobs

inductive Command
  | exists (repository digest : String)
  | pull (repository digest : String) (output : Option String)
  | push (repository file : String) (digest : Option String) (skipExisting : Bool)
  | config (repository digest : String)
deriving DecidableEq, Repr

structure CommandLine where
  registry : Option String := none
  username : Option String := none
  password : Option String := none
  token : Option String := none
  skipTls : Bool := false
  timeout : Option Duration := none
  verbose : Bool := false
  quiet : Bool := false
  command : Command
deriving DecidableEq, Repr

namespace CommandLine

/-- The command of a verb with what stands behind it. -/
def commandOf (verb : Verb) (behind : Side) : Command :=
  let first := behind.positionals.headD ""
  let second := (behind.positionals.drop 1).headD ""
  match verb with
  | .exists => .exists first second
  | .pull => .pull first second (behind.value? .output)
  | .push => .push first second (behind.value? .digest) (behind.has .skipExisting)
  | .config => .config first second

def parse (arguments : List String) : Except Usage CommandLine := do
  let sides ← readFrom {} arguments
  let front := sides.1
  let behind := sides.2.2
  let value (opt : Opt) : Option String := (behind.value? opt).or (front.value? opt)
  let has (opt : Opt) : Bool := behind.has opt || front.has opt
  .ok {
    registry := value .registry
    username := value .username
    password := value .password
    token := value .token
    skipTls := has .skipTls
    timeout := ((value .timeout).bind Text.natural64?).bind Duration.ofSeconds?
    verbose := has .verbose
    quiet := has .quiet
    command := commandOf sides.2.1 behind }

/-- The settings that a command line asks for: those of the environment only
if it names no registry. -/
def settings (line : CommandLine) (environment : Environment) : Except Failure Settings := do
  let base ← match line.registry with
    | some address => pure (Settings.new address)
    | none => Settings.ofEnvironment environment
  pure { base with
    credentials := {
      username := line.username.or base.credentials.username
      password := line.password.or base.credentials.password
      token := line.token.or base.credentials.token }
    skipTls := line.skipTls || base.skipTls
    timeout := line.timeout.or base.timeout
    verbose := line.verbose }

end CommandLine

end OciBlobs
