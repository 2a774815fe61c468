/-
# `Proofs.Command.Clock` — runs that the clock cannot hold

A run ends well or with a failure.  Two things keep it from that, and each of
them takes a timeout of its kind:

    overflow   the clock cannot hold the deadline of the run (`overflow_iff_beyond`)
    stuck      there is no deadline at all, and a reply stalls (`stalls_of_stuck`)

The deadline is made from any number of seconds that a command line or the
environment may give, and nothing looks at it before it is added to the time:
from 2^63 seconds on the run comes down instead of failing
(`accepted_timeout_beyond_clock`).
-/
import OciBlobs.Proofs.Blob.Ends
import OciBlobs.Proofs.Command.Begin
import OciBlobs.Proofs.Command.Pull
import OciBlobs.Proofs.Command.Push

namespace OciBlobs

open Http

/-! ## Times that the clock can hold -/

theorem Duration.toNanos_lt_clockLimit {duration : Duration} :
    (duration.toNanos : Int) < Scope.clockLimit * 1000000000 ↔ duration.seconds < 2 ^ 63 := by
  have hnanos := duration.nanos_lt
  unfold toNanos Scope.clockLimit
  omega

theorem Settings.fitsClock_zero_iff {settings : Settings} :
    settings.FitsClock 0 ↔ ∀ timeout ∈ settings.activeTimeout, timeout.seconds < 2 ^ 63 := by
  rw [fitsClock_zero]
  exact forall₂_congr fun timeout _ => Duration.toNanos_lt_clockLimit

theorem Settings.not_fitsClock {settings : Settings} {now : Int} :
    ¬settings.FitsClock now ↔ ∃ timeout, settings.activeTimeout = some timeout ∧
      Scope.clockLimit * 1000000000 ≤ now + timeout.toNanos := by
  unfold FitsClock
  simp only [Option.mem_def, not_forall, Int.not_lt, exists_prop]

theorem Settings.ownScope_deadline {settings : Settings} {scope : Scope} {run : Run}
    (h : (settings.ownScope scope run).deadline = none) :
    settings.activeTimeout = none ∧ scope.deadline = none := by
  unfold ownScope at h
  cases hactive : settings.activeTimeout with
  | some timeout =>
      rw [hactive] at h
      cases h
  | none =>
      rw [hactive] at h
      exact ⟨rfl, h⟩

/-! ## Commands come to an end -/

namespace CommandLine

section
variable {replies : List Reply}

theorem ends_told {scope : Scope} (reading : Reading) :
    (match reading.failure with
      | some failure => Act.fail failure
      | none => pure reading.bytes.length : Act Nat).Ends scope replies fun _ => True := by
  cases reading.failure with
  | some failure => exact .fail failure
  | none => exact .pure trivial

theorem ends_saveAs {download : Download} (h : download.response.StallsBy replies)
    (path : String) : (saveAs download path).Ends download.scope replies fun _ => True := by
  refine .state fun run => (Act.Ends.result _).bind fun created _ => ?_
  refine Act.Ends.bind (.change fun _ => rfl) fun _ _ => ?_
  refine (Download.ends_copyFrom {} 0 _ h).bind fun reading _ => ?_
  exact Act.Ends.bind (.change fun _ => rfl) fun _ _ => ends_told reading

theorem ends_printOut {download : Download} (h : download.response.StallsBy replies) :
    (printOut download).Ends download.scope replies fun _ => True := by
  refine (Download.ends_copyFrom {} 0 _ h).bind fun reading _ => ?_
  exact Act.Ends.bind (.change fun _ => rfl) fun _ _ => ends_told reading

theorem ends_copyTo {download : Download} (h : download.response.StallsBy replies)
    (output : Option String) :
    (copyTo output download).Ends download.scope replies fun _ => True := by
  cases output with
  | some path => exact ends_saveAs h path
  | none => exact ends_printOut h

variable (line : CommandLine) (client : Client) (scope : Scope)

theorem ends_note (note : Log.Note) :
    (Act.note line.logger note).Ends scope replies fun _ => True :=
  .change fun _ => rfl

theorem ends_pull (repository : String) (digest : Digest) (output : Option String) :
    (line.pull client scope repository digest output).Ends scope replies fun _ => True := by
  rw [pull_eq]
  refine (client.ends_download scope replies repository digest).bind ?_
  rintro download ⟨rfl, hbody⟩
  -- a status that says success changes nothing of the body
  have hsuccess (other : Download) (hok : download.success = .ok other) : other = download := by
    unfold Download.success Response.success at hok
    cases hstatus : download.response.status.isSuccess with
    | true =>
        rw [hstatus] at hok
        cases hok
        rfl
    | false =>
        rw [hstatus] at hok
        cases hok
  refine (Act.Ends.ofExcept hsuccess).bind ?_
  rintro _ rfl
  exact (ends_copyTo hbody output).bind fun _ _ => line.ends_note _ _

theorem ends_push (repository path : String) (declared : Option String) (asks : Bool) :
    (line.push client scope repository path declared asks).Ends scope replies fun _ => True := by
  rw [push_eq]
  refine .state fun run => (Act.Ends.result _).bind fun digest _ => ?_
  refine (Act.Ends.result _).bind fun entry _ => ?_
  have hlearn : (client.learn scope repository digest asks).Ends scope replies fun _ => True := by
    cases asks with
    | true => exact client.ends_holds scope replies repository digest
    | false => exact .pure trivial
  refine hlearn.bind fun found _ => ?_
  cases found with
  | true => exact line.ends_note scope _
  | false =>
      exact (client.ends_upload scope replies repository digest _).bind fun _ _ =>
        line.ends_note scope _

theorem ends_execute : (line.execute client scope).Ends scope replies fun _ => True := by
  unfold execute
  cases line.command with
  | «exists» repository written =>
      refine (Act.Ends.result _).bind fun digest _ => ?_
      exact (client.ends_holds scope replies repository digest).bind fun _ _ => .change fun _ => rfl
  | pull repository written output =>
      exact (Act.Ends.result _).bind fun digest _ => line.ends_pull client scope _ digest output
  | push repository file declared skipExisting => exact line.ends_push client scope _ _ _ _
  | config repository written =>
      refine (Act.Ends.result _).bind fun digest _ => ?_
      exact (client.ends_document scope replies repository digest).bind fun _ _ =>
        .change fun _ => rfl

end

/-! ## Runs -/

section
variable {line : CommandLine} {environment : Environment} {reaches : Url → Bool} {scope : Scope}
  {run : Run}

theorem ends_run {settings : Settings} {client : Client}
    (hset : line.settings environment = .ok settings)
    (hbuilt : Client.ofSettings settings reaches (some line.logger) = .ok client)
    (hfits : settings.FitsClock run.now) :
    (line.run environment reaches scope run).1.EndsBy (settings.ownScope scope run) run.replies
      fun _ => True := by
  have hready : line.Begins environment reaches scope run
      (.ok (client, settings.ownScope scope run)) run.begun := .ready hset hbuilt hfits
  obtain ⟨shown, -, hrun⟩ := hready.carried
  rw [hrun]
  exact (line.ends_execute client (settings.ownScope scope run) run.begun
    (List.suffix_refl run.replies)).2

theorem Begins.missed_outcome {begun : Outcome (Client × Scope)} {after : Run}
    (h : line.Begins environment reaches scope run begun after) (hne : ∀ made, begun ≠ .ok made) :
    (line.run environment reaches scope run).1 = begun.forget :=
  congrArg Prod.fst (h.missed hne)

/-- Only the beginning of a run can bring it down, and only at its deadline. -/
theorem overflow_iff_beyond :
    (line.run environment reaches scope run).1 = .overflow ↔
      ∃ settings client, line.settings environment = .ok settings ∧
        Client.ofSettings settings reaches (some line.logger) = .ok client ∧
        ¬settings.FitsClock run.now := by
  constructor
  · intro hover
    obtain ⟨begun, after, hbegins⟩ := line.begins_exists environment reaches scope run
    have hmissed := hbegins.missed_outcome
    cases hbegins with
    | unset hset =>
        rw [hmissed (by intro _ h; cases h)] at hover
        cases hover
    | unbuilt hset hbuilt =>
        rw [hmissed (by intro _ h; cases h)] at hover
        cases hover
    | beyond hset hbuilt hnot => exact ⟨_, _, hset, hbuilt, hnot⟩
    | ready hset hbuilt hfits =>
        have hends : (line.run environment reaches scope run).1.EndsBy _ _ _ :=
          ends_run hset hbuilt hfits
        rw [hover] at hends
        cases hends
  · rintro ⟨settings, client, hset, hbuilt, hnot⟩
    exact Begins.missed_outcome (.beyond hset hbuilt hnot) (by intro _ h; cases h)

/-- A run that never ends has no deadline, and it comes to a reply that stalls. -/
theorem stalls_of_stuck (hstuck : (line.run environment reaches scope run).1 = .stuck) :
    (∀ settings, line.settings environment = .ok settings → settings.activeTimeout = none) ∧
      scope.deadline = none ∧ ∃ reply ∈ run.replies, reply.Stalls := by
  obtain ⟨begun, after, hbegins⟩ := line.begins_exists environment reaches scope run
  have hmissed := hbegins.missed_outcome
  cases hbegins with
  | unset hset =>
      rw [hmissed (by intro _ h; cases h)] at hstuck
      cases hstuck
  | unbuilt hset hbuilt =>
      rw [hmissed (by intro _ h; cases h)] at hstuck
      cases hstuck
  | beyond hset hbuilt hnot =>
      rw [hmissed (by intro _ h; cases h)] at hstuck
      cases hstuck
  | ready hset hbuilt hfits =>
      have hends : (line.run environment reaches scope run).1.EndsBy _ _ _ :=
        ends_run hset hbuilt hfits
      rw [hstuck] at hends
      cases hends with
      | stuck hdeadline hstalls =>
          obtain ⟨hactive, hscope⟩ := Settings.ownScope_deadline hdeadline
          refine ⟨fun other hset' => ?_, hscope, hstalls⟩
          cases hset.symm.trans hset'
          exact hactive

end

/-- A run comes down exactly when it has a timeout, all else that it begins with
is as it should be, and the clock cannot hold the time at which it would end: at
the start of the clock, when the timeout is of 2^63 seconds or more.  Otherwise
it ends well or with a failure, unless it has no deadline, neither by a timeout
nor by the scope that it is run in, and comes to a reply that stalls. -/
theorem comes_down_just_beyond_clock (line : CommandLine) (environment : Environment)
    (reaches : Url → Bool) (scope : Scope) (run : Run) :
    let outcome := (line.run environment reaches scope run).1
    (outcome = .overflow ↔ ∃ settings client timeout,
      line.settings environment = .ok settings ∧
      Client.ofSettings settings reaches (some line.logger) = .ok client ∧
      settings.activeTimeout = some timeout ∧
      Scope.clockLimit * 1000000000 ≤ run.now + timeout.toNanos) ∧
    (outcome = .stuck →
      (∀ settings, line.settings environment = .ok settings → settings.activeTimeout = none) ∧
      scope.deadline = none ∧ ∃ reply ∈ run.replies, reply.Stalls) := by
  refine ⟨overflow_iff_beyond.trans ?_, stalls_of_stuck⟩
  simp only [Settings.not_fitsClock, exists_and_left]

/-- The arguments ask for 2^63 seconds, and the run that they ask for comes down at
its start. -/
theorem accepted_timeout_beyond_clock :
    ∃ line, CommandLine.parse
        ["-r", "http://h", "-t", "9223372036854775808", "exists", "r", "a:b"] = .ok line ∧
      (line.run [] (fun _ => true) { token := [] } {}).1 = .overflow := by
  let timeout : Duration := .wholeSeconds 9223372036854775808 (by decide)
  let line : CommandLine :=
    { registry := some "http://h", timeout := some timeout, command := .exists "r" "a:b" }
  have hparse : CommandLine.parse
      ["-r", "http://h", "-t", "9223372036854775808", "exists", "r", "a:b"] = .ok line :=
    Except.eq_ok_of_toOption (by decide +kernel)
  let settings : Settings := { Settings.new "http://h" with timeout := some timeout }
  have hset : line.settings [] = .ok settings := rfl
  have hname : Client.tokenHeaderOf settings = .ok "request-token" :=
    Client.tokenHeaderOf_eq_ok
      (show Header.name? Settings.defaultTokenHeader = some "request-token" from rfl)
  obtain ⟨_, _, _, _, haddress, -, hagent, hcredentials, -⟩ :=
    Client.ofSettings_eq_ok.mp (Client.ofSettings_host line.logger)
  obtain ⟨client, hbuilt⟩ : ∃ client,
      Client.ofSettings settings (fun _ => true) (some line.logger) = .ok client :=
    ⟨_, Client.ofSettings_eq_ok.mpr ⟨_, _, _, _, haddress, hname, hagent, hcredentials, rfl⟩⟩
  have hbeyond : ¬settings.FitsClock 0 := by
    rw [Settings.fitsClock_zero_iff]
    intro hfits
    exact absurd (hfits timeout rfl) (by decide)
  exact ⟨line, hparse, overflow_iff_beyond.mpr ⟨settings, client, hset, hbuilt, hbeyond⟩⟩

end CommandLine

end OciBlobs
