/-
# `Duration` — lengths of time, in seconds and nanoseconds
-/
import OciBlobs.Json.Decoder

namespace OciBlobs

/-- A length of time: whole seconds of 64 bits, and nanoseconds below one. -/
structure Duration where
  seconds : Nat
  nanos : Nat
  seconds_lt : seconds < 0x10000000000000000
  nanos_lt : nanos < 1000000000
deriving DecidableEq, Repr

namespace Duration

/-- Whole seconds that are known to fit. -/
def wholeSeconds (seconds : Nat) (fits : seconds < 0x10000000000000000) : Duration :=
  ⟨seconds, 0, fits, by decide⟩

/-- Whole seconds, if they fit. -/
def ofSeconds? (seconds : Nat) : Option Duration :=
  if fits : seconds < 0x10000000000000000 then some (wholeSeconds seconds fits) else none

/-- Seconds with nanoseconds that may make up further seconds. -/
def carry? (seconds nanos : Nat) : Option Duration :=
  if h : seconds + nanos / 1000000000 < 0x10000000000000000 then
    some ⟨seconds + nanos / 1000000000, nanos % 1000000000, h, Nat.mod_lt _ (by decide)⟩
  else none

def isZero (duration : Duration) : Bool :=
  duration.seconds == 0 && duration.nanos == 0

def toNanos (duration : Duration) : Nat :=
  duration.seconds * 1000000000 + duration.nanos

open Json

def toJson (duration : Duration) : Value :=
  .object [("secs", .number (.natural duration.seconds)),
    ("nanos", .number (.natural duration.nanos))]

/-- What has been read of a duration. -/
structure Given where
  seconds : Option Nat := none
  nanos : Option Nat := none

def record : Decoder.Record Given Duration where
  expected := "struct Duration"
  fullLength := "struct Duration"
  fields := [
    .of "secs" (.unsigned "u64" 0xFFFFFFFFFFFFFFFF) (·.seconds)
      (fun given n => { given with seconds := some n }) false,
    .of "nanos" (.unsigned "u32" 0xFFFFFFFF) (·.nanos)
      (fun given n => { given with nanos := some n }) false]
  blank := {}
  complete given :=
    match given.seconds, given.nanos with
    | none, _ => .error (.missingField "secs")
    | _, none => .error (.missingField "nanos")
    | some seconds, some nanos =>
      match carry? seconds nanos with
      | some duration => .ok duration
      | none => .error (.content "overflow deserializing Duration")
  refuse := some fun name =>
    .content ("unknown field `" ++ name ++ "`, expected `secs` or `nanos`")

def decoder : Decoder Duration :=
  record.decoder

end Duration

end OciBlobs
