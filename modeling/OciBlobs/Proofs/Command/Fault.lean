/-
# `Proofs.Command.Fault` — what is at fault before anything is sent

What a run can see by itself that is at fault, it sees first (`LocalFault`):

    unset     no address, or a timeout in the environment that is no number
    unfit     no client can be built: by its address, the name of its header for
              upload tokens, its user agent or its credentials
    digest    the digest that the command names is none
    file      the file to push cannot be opened

Where there is any of these, a run fails with one of them, and it has done
nothing else: whatever its scope, and also where a push would ask first whether
the blob is there.
-/
import OciBlobs.Proofs.Client
import OciBlobs.Proofs.Command.Begin
import OciBlobs.Proofs.Command.Push

namespace OciBlobs

open Http

/-! ## Settings that fit no client -/

/-- Why no client can be built with settings. -/
inductive Settings.Unfit (settings : Settings) : Failure → Prop
  /-- The address cannot be parsed or has no host. -/
  | address {failure : Failure} (bad : Registry.Address.parse settings.address = .error failure) :
      Unfit settings failure
  | tokenHeader (bad : Header.name? settings.tokenHeader = none) :
      Unfit settings (.settings ("invalid upload token header '" ++ settings.tokenHeader ++
        "': invalid HTTP header name"))
  | userAgent {text : String} (given : settings.userAgent = some text)
      (bad : Header.value? text = none) : Unfit settings (.exchange .settings)
  | credentials {text : String}
      (given : Exchange.credentialsText? settings.credentials = some text)
      (bad : Header.value? text = none) :
      Unfit settings (.settings "invalid credentials header: failed to parse header value")

namespace Client

variable {settings : Settings} {reaches : Url → Bool} {logger : Option Log.Logger}

theorem unfit_of_ofSettings {failure : Failure}
    (h : ofSettings settings reaches logger = .error failure) : settings.Unfit failure := by
  rw [ofSettings, build_eq, Exchange.ofSettings_eq] at h
  rcases Except.bind_eq_error h with haddress | ⟨address, -, h⟩
  · exact .address haddress
  rcases Except.bind_eq_error h with hheader | ⟨tokenHeader, -, h⟩
  · unfold tokenHeaderOf at hheader
    split at hheader
    case h_1 => cases hheader
    case h_2 hname =>
      cases hheader
      exact .tokenHeader hname
  rcases Except.bind_eq_error (Except.map_eq_error (Except.map_eq_error h)) with
    hagent | ⟨userAgent, -, h⟩
  · unfold Exchange.userAgentOf at hagent
    split at hagent
    case h_1 => cases hagent
    case h_2 text hgiven =>
      split at hagent
      case h_1 => cases hagent
      case h_2 hvalue =>
        cases hagent
        exact .userAgent hgiven hvalue
  · have hcredentials := Except.map_eq_error h
    unfold Exchange.authorizationOf at hcredentials
    split at hcredentials
    case h_1 => cases hcredentials
    case h_2 text hgiven =>
      split at hcredentials
      case h_1 => cases hcredentials
      case h_2 hvalue =>
        cases hcredentials
        exact .credentials hgiven hvalue

theorem ofSettings_ne_ok {failure : Failure} (h : settings.Unfit failure) (client : Client) :
    ofSettings settings reaches logger ≠ .ok client := by
  intro hok
  obtain ⟨_, _, _, _, haddress, hname, hagent, hcredentials, -⟩ := ofSettings_eq_ok.mp hok
  cases h with
  | address bad =>
      rw [bad] at haddress
      cases haddress
  | tokenHeader bad =>
      unfold tokenHeaderOf at hname
      rw [bad] at hname
      cases hname
  | userAgent given bad =>
      unfold Exchange.userAgentOf at hagent
      simp only [given, bad] at hagent
      cases hagent
  | credentials given bad =>
      unfold Exchange.authorizationOf at hcredentials
      simp only [given, bad] at hcredentials
      cases hcredentials

end Client

/-! ## Faults of a run -/

/-- The text that a command takes for a digest. -/
def Command.digestText? : Command → Option String
  | .exists _ digest | .pull _ digest _ | .config _ digest => some digest
  | .push _ _ digest _ => digest

/-- The file that a command pushes. -/
def Command.file? : Command → Option String
  | .push _ file _ _ => some file
  | _ => none

/-- What a command names is at fault: its digest, or the file that it pushes. -/
inductive Command.Faulty (command : Command) (files : Files) : Failure → Prop
  | digest {text : String} {failure : Failure} (named : command.digestText? = some text)
      (bad : Digest.parse text = .error failure) : Faulty command files failure
  | file {path : String} {error : IoError} (pushed : command.file? = some path)
      (missing : files.open? path = .error error) : Faulty command files (.io error)

namespace CommandLine

/-- Why a command line has no settings: it names no registry, and the environment
does not make up for it. -/
inductive Unset (line : CommandLine) (environment : Environment) : Failure → Prop
  | noAddress (unnamed : line.registry = none)
      (missing : environment.get? "REGISTRY_ADDRESS" = none) :
      Unset line environment (.settings "REGISTRY_ADDRESS not set")
  | timeout {text : String} (unnamed : line.registry = none)
      (given : environment.get? "REGISTRY_TIMEOUT" = some text)
      (bad : (Text.natural64? text).bind Duration.ofSeconds? = none) :
      Unset line environment (.settings ("REGISTRY_TIMEOUT is not a number: " ++ text))

/-- What a run can see by itself that is at fault. -/
inductive LocalFault (line : CommandLine) (environment : Environment) (files : Files) :
    Failure → Prop
  | unset {failure : Failure} (unset : line.Unset environment failure) :
      LocalFault line environment files failure
  | unfit {settings : Settings} {failure : Failure}
      (set : line.settings environment = .ok settings) (unfit : settings.Unfit failure) :
      LocalFault line environment files failure
  | command {failure : Failure} (faulty : line.command.Faulty files failure) :
      LocalFault line environment files failure

variable {line : CommandLine} {environment : Environment} {reaches : Url → Bool} {scope : Scope}
  {run : Run}

/-- Without a registry on the command line, its settings are those of the
environment. -/
theorem settings_unnamed (h : line.registry = none) :
    line.settings environment = (Settings.ofEnvironment environment).map fun base =>
      { base with
        credentials := {
          username := line.username.or base.credentials.username
          password := line.password.or base.credentials.password
          token := line.token.or base.credentials.token }
        skipTls := line.skipTls || base.skipTls
        timeout := line.timeout.or base.timeout
        verbose := line.verbose } := by
  unfold settings
  rw [h]
  cases Settings.ofEnvironment environment with
  | ok base => rfl
  | error failure => rfl

theorem unset_of_settings {failure : Failure} (h : line.settings environment = .error failure) :
    line.Unset environment failure := by
  cases hregistry : line.registry with
  | some address =>
      unfold settings at h
      rw [hregistry] at h
      cases h
  | none =>
      rw [settings_unnamed hregistry] at h
      have hbase := Except.map_eq_error h
      unfold Settings.ofEnvironment at hbase
      cases haddress : environment.get? "REGISTRY_ADDRESS" with
      | none =>
          rw [haddress] at hbase
          cases hbase
          exact .noAddress hregistry haddress
      | some address =>
          rw [haddress] at hbase
          cases htimeout : environment.get? "REGISTRY_TIMEOUT" with
          | none =>
              rw [htimeout] at hbase
              cases hbase
          | some text =>
              rw [htimeout] at hbase
              cases hread : (Text.natural64? text).bind Duration.ofSeconds? with
              | none =>
                  simp only [hread] at hbase
                  cases hbase
                  exact .timeout hregistry htimeout hread
              | some duration =>
                  simp only [hread] at hbase
                  cases hbase

theorem settings_ne_ok {failure : Failure} (h : line.Unset environment failure)
    (settings : Settings) : line.settings environment ≠ .ok settings := by
  intro hok
  cases h with
  | noAddress unnamed missing =>
      rw [settings_unnamed unnamed] at hok
      obtain ⟨base, hbase, -⟩ := Except.map_eq_ok hok
      unfold Settings.ofEnvironment at hbase
      rw [missing] at hbase
      cases hbase
  | timeout unnamed given bad =>
      rw [settings_unnamed unnamed] at hok
      obtain ⟨base, hbase, -⟩ := Except.map_eq_ok hok
      unfold Settings.ofEnvironment at hbase
      cases haddress : environment.get? "REGISTRY_ADDRESS" with
      | none =>
          rw [haddress] at hbase
          cases hbase
      | some address =>
          rw [haddress, given] at hbase
          simp only [bad] at hbase
          cases hbase

theorem execute_parses {text : String} (hnamed : line.command.digestText? = some text)
    (hnone : line.command.file? = none) (client : Client) (scope : Scope) :
    ∃ next, line.execute client scope = (Act.ofExcept (Digest.parse text) >>= next) := by
  unfold execute
  cases hcommand : line.command with
  | push repository file declared asks =>
      rw [hcommand] at hnone
      cases hnone
  | _ =>
      rw [hcommand] at hnamed
      cases hnamed
      exact ⟨_, rfl⟩

/-- A push looks at the digest that was declared, and then for the file. -/
theorem push_at_fault {repository path : String} {declared : Option String} {asks : Bool}
    {failure : Failure} (client : Client)
    (hfault : (Command.push repository path declared asks).Faulty run.files failure) :
    ∃ first, (Command.push repository path declared asks).Faulty run.files first ∧
      line.push client scope repository path declared asks run = (.failed first, run) := by
  -- the digest first, and what is wrong with that
  have hdigest {first : Failure} (h : digestToPush run.files path declared = .error first) :
      line.push client scope repository path declared asks run = (.failed first, run) := by
    rw [push_eq]
    show (Act.ofExcept (digestToPush run.files path declared) >>= _) run = _
    rw [h]
    rfl
  cases declared with
  | none =>
      cases hfault with
      | digest named _ => cases named
      | @file _ error pushed missing =>
          cases pushed
          refine ⟨.io error, .file rfl missing, hdigest ?_⟩
          show ((run.files.open? path).mapError Failure.io >>= _) = _
          rw [missing]
          rfl
  | some text =>
      cases hparse : Digest.parse text with
      | error bad => exact ⟨bad, .digest rfl hparse, hdigest hparse⟩
      | ok digest =>
          cases hfault with
          | digest named bad =>
              cases named
              rw [hparse] at bad
              cases bad
          | @file _ error pushed missing =>
              cases pushed
              refine ⟨.io error, .file rfl missing, ?_⟩
              rw [push_eq]
              show (Act.ofExcept (Digest.parse text) >>= _) run = _
              rw [hparse]
              show (Act.ofExcept ((run.files.open? path).mapError Failure.io) >>= _) run = _
              rw [missing]
              rfl

/-- A command with a fault of its own fails at one, and does nothing else. -/
theorem execute_at_fault {failure : Failure} (client : Client)
    (hfault : line.command.Faulty run.files failure) :
    ∃ first, line.command.Faulty run.files first ∧
      line.execute client scope run = (.failed first, run) := by
  by_cases hpush : ∃ repository path declared asks,
      line.command = .push repository path declared asks
  · obtain ⟨repository, path, declared, asks, hcommand⟩ := hpush
    rw [hcommand] at hfault ⊢
    unfold execute
    rw [hcommand]
    exact push_at_fault client hfault
  · have hnone : line.command.file? = none := by
      cases hcommand : line.command with
      | push repository path declared asks => exact absurd ⟨_, _, _, _, hcommand⟩ hpush
      | _ => rfl
    cases hfault with
    | file pushed _ =>
        rw [hnone] at pushed
        cases pushed
    | digest named bad =>
        obtain ⟨next, hexecute⟩ := execute_parses named hnone client scope
        refine ⟨failure, .digest named bad, ?_⟩
        rw [hexecute, bad]
        rfl

/-- A run whose command fails, fails with it and puts out nothing more. -/
theorem Begins.failed {client : Client} {inner : Scope} {begun after : Run} {failure : Failure}
    (h : line.Begins environment reaches scope run (.ok (client, inner)) begun)
    (hfails : line.execute client inner begun = (.failed failure, after)) :
    line.run environment reaches scope run = (.failed failure, after) := by
  cases h with
  | ready hset hbuilt hfits =>
      rw [run_eq, hset, Act.ofExcept_ok, Act.bind_ok (Act.pure_run ..), hbuilt, Act.ofExcept_ok,
        Act.bind_ok (Act.pure_run ..), Act.bind_ok (Settings.enter_of_fits hfits scope),
        Act.bind_failed hfails]

/-- Faults that a run can see by itself are found before anything else is done.

If the settings cannot be read, no client can be built with them, the digest that
the command names is none, or the file to push cannot be opened, then the run
fails with one of these faults, whatever the command, the environment, the scope
and the answers are.  It hands over no request, leaves the files as they were, and
puts out nothing, on standard output or elsewhere.  The clock has to hold the
deadline of the run: at its start, any timeout below 2^63 seconds
(`Settings.fitsClock_zero`). -/
theorem local_faults_come_first (line : CommandLine) (environment : Environment)
    (reaches : Url → Bool) (scope : Scope) (run : Run)
    (hfault : ∃ failure, line.LocalFault environment run.files failure)
    (hclock : ∀ settings, line.settings environment = .ok settings → settings.FitsClock run.now) :
    let ended := line.run environment reaches scope run
    (∃ failure, line.LocalFault environment run.files failure ∧ ended.1 = .failed failure) ∧
      ended.2.handed = run.handed ∧ ended.2.sent = run.sent ∧ ended.2.files = run.files ∧
      ended.2.output = run.output := by
  intro ended
  obtain ⟨outcome, begun, hbegins⟩ := line.begins_exists environment reaches scope run
  cases hbegins with
  | @unset failure hset =>
      have hrun : ended = _ :=
        (Begins.unset hset : line.Begins environment reaches scope run _ _).missed
          fun _ h => nomatch h
      rw [hrun]
      exact ⟨⟨failure, .unset (unset_of_settings hset), rfl⟩, rfl, rfl, rfl, rfl⟩
  | @unbuilt settings failure hset hbuilt =>
      have hrun : ended = _ :=
        (Begins.unbuilt hset hbuilt : line.Begins environment reaches scope run _ _).missed
          fun _ h => nomatch h
      rw [hrun]
      exact ⟨⟨failure, .unfit hset (Client.unfit_of_ofSettings hbuilt), rfl⟩, rfl, rfl, rfl, rfl⟩
  | beyond hset hbuilt hbeyond => exact absurd (hclock _ hset) hbeyond
  | @ready settings client hset hbuilt hfits =>
      -- settings and client are as they should be, so it is the command
      obtain ⟨failure, hlocal⟩ := hfault
      have hfaulty : line.command.Faulty run.files failure := by
        cases hlocal with
        | unset unset => exact absurd hset (settings_ne_ok unset settings)
        | unfit set unfit =>
            cases hset.symm.trans set
            exact absurd hbuilt (Client.ofSettings_ne_ok unfit client)
        | command faulty => exact faulty
      have hbegun : line.command.Faulty run.begun.files failure := hfaulty
      obtain ⟨first, hfirst, hexecute⟩ := execute_at_fault client hbegun
      have hrun : ended = (.failed first, run.begun) :=
        Begins.failed (.ready hset hbuilt hfits) hexecute
      rw [hrun]
      exact ⟨⟨first, .command hfirst, rfl⟩, rfl, rfl, rfl, rfl⟩

/-- A digest that is none and a file that is not there, in a scope that was cancelled,
with the question for the blob first. -/
theorem local_faults_come_first_push :
    let line : CommandLine :=
      { registry := some "http://h", command := .push "r" "f" (some "none") true }
    let run : Run := { cancelled := [[]] }
    let scope : Scope := { token := [] }
    (∃ failure, line.LocalFault [] run.files failure ∧
        (line.run [] (fun _ => true) scope run).1 = .failed failure) ∧
      (line.run [] (fun _ => true) scope run).2.handed = [] ∧
      (line.run [] (fun _ => true) scope run).2.output = [] := by
  intro line run scope
  have hbad : Digest.parse "none" = .error (.invalidDigest "none" "missing algorithm prefix") := by
    rfl
  have hset : line.settings [] = .ok (Settings.new "http://h") := rfl
  have hfits (settings : Settings) (h : line.settings [] = .ok settings) :
      settings.FitsClock run.now := by
    cases hset.symm.trans h
    exact Settings.fitsClock_new "http://h"
  obtain ⟨hfails, hhanded, -, -, houtput⟩ := local_faults_come_first line [] (fun _ => true)
    scope run ⟨_, .command (.digest rfl hbad)⟩ hfits
  exact ⟨hfails, hhanded, houtput⟩

end CommandLine

end OciBlobs
