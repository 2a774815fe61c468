/-
# `CommandLine.Grammar` — the options and commands there are

A command line is options, a command, and what belongs to the command.  The
general options may stand on both sides of the command; each side is a level
of its own, with its own record of what was given.
-/
import OciBlobs.Text.Natural

namespace OciBlobs.CommandLine

inductive Usage
  | help
  | version
  /-- Nothing was given at all. -/
  | nothingGiven
  | missingCommand
  | unknownCommand
  | unknownArgument
  | missingArgument
  /-- An option without its value, or an empty value where there has to be one. -/
  | missingValue
  /-- A value that does not have the form it should have. -/
  | invalidValue
  /-- A value for an option that takes none. -/
  | unneededValue
  /-- Options that exclude each other, or one that was given twice. -/
  | conflict
deriving DecidableEq, Repr

inductive Opt
  | registry
  | username
  | password
  | token
  | skipTls
  | timeout
  | verbose
  | quiet
  | output
  | digest
  | skipExisting
  | help
  | version
deriving DecidableEq, Repr

/-- What an option or a positional argument takes. -/
inductive Kind
  | flag
  | text
  /-- A whole number of 64 bits. -/
  | natural
  /-- A nonempty text. -/
  | path
deriving DecidableEq, Repr

namespace Opt

def name : Opt → String
  | .registry => "registry"
  | .username => "username"
  | .password => "password"
  | .token => "token"
  | .skipTls => "skip-tls"
  | .timeout => "timeout"
  | .verbose => "verbose"
  | .quiet => "quiet"
  | .output => "output"
  | .digest => "digest"
  | .skipExisting => "skip-existing"
  | .help => "help"
  | .version => "version"

def letter? : Opt → Option Char
  | .registry => some 'r'
  | .username => some 'u'
  | .password => some 'p'
  | .skipTls => some 'k'
  | .timeout => some 't'
  | .verbose => some 'v'
  | .quiet => some 'q'
  | .output => some 'o'
  | .help => some 'h'
  | .version => some 'V'
  | _ => none

def kind : Opt → Kind
  | .registry | .username | .password | .token | .digest => .text
  | .timeout => .natural
  | .output => .path
  | .skipTls | .verbose | .quiet | .skipExisting | .help | .version => .flag

/-- The options that may stand on both sides of the command. -/
def general : List Opt :=
  [.registry, .username, .password, .token, .skipTls, .timeout, .verbose, .quiet, .help]

end Opt

inductive Verb
  | exists
  | pull
  | push
  | config
deriving DecidableEq, Repr

namespace Verb

def all : List Verb :=
  [.exists, .pull, .push, .config]

def name : Verb → String
  | .exists => "exists"
  | .pull => "pull"
  | .push => "push"
  | .config => "config"

def ofName? (name : String) : Option Verb :=
  all.find? fun verb => verb.name == name

end Verb

/-- The name that asks for help in place of a command. -/
def helpName : String := "help"

/-- What may stand on one side of the command. -/
structure Level where
  options : List Opt
  positionals : List Kind

def Level.front : Level where
  options := Opt.general ++ [.version]
  positionals := []

def Level.behind : Verb → Level
  | .exists => ⟨Opt.general, [.text, .text]⟩
  | .pull => ⟨Opt.general ++ [.output], [.text, .text]⟩
  | .push => ⟨Opt.general ++ [.digest, .skipExisting], [.text, .path]⟩
  | .config => ⟨Opt.general, [.text, .text]⟩

namespace Level

def named? (level : Level) (name : String) : Option Opt :=
  level.options.find? fun opt => opt.name == name

def lettered? (level : Level) (letter : Char) : Option Opt :=
  level.options.find? fun opt => opt.letter? == some letter

end Level

def Kind.check (kind : Kind) (value : String) : Except Usage Unit :=
  match kind with
  | .flag | .text => .ok ()
  | .natural => if (Text.natural64? value).isSome then .ok () else .error .invalidValue
  | .path => if value.isEmpty then .error .missingValue else .ok ()

end OciBlobs.CommandLine
