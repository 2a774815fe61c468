/-
# `Proofs.Command.Stdout` — what a run puts on standard output

Standard output is for answers.  The operations of a client leave it alone, so a
command that has failed has put nothing there (`Reserved`), and one that asks
for something has put there its answer, on a line (`answer_run`).  The one
exception is a pull to standard output itself: there is what came in of the
body, also if that broke off, and a logger that keeps away from it.
-/
import OciBlobs.Proofs.Blob.Presence
import OciBlobs.Proofs.Command.Pull
import OciBlobs.Proofs.Command.Push

namespace OciBlobs

open Http

/-! ## Nothing without a good end -/

/-- All of standard output is as it was. -/
def Run.Silent (before after : Run) : Prop :=
  Output.stdoutOf after.output = Output.stdoutOf before.output

instance Run.silentPreorder : IsPreorder Run Run.Silent where
  refl _ := rfl
  trans _ _ _ h h' := h'.trans h

theorem Run.Keeps.silent {before after : Run} (h : before.Keeps after) : before.Silent after :=
  h.stdout

namespace Act

variable {α β : Type}

theorem Within.silent {act : Act α} (h : act.Within Run.Keeps) : act.Within Run.Silent :=
  h.mono fun _ _ => Run.Keeps.silent

/-- The action puts nothing on standard output unless it ends well. -/
def Reserved (act : Act α) : Prop :=
  ∀ run, (∀ a, (act run).1 ≠ .ok a) → run.Silent (act run).2

namespace Reserved

theorem change (f : Run → Run) : (Act.change f).Reserved :=
  fun _ h => absurd rfl (h ())

theorem bind {act : Act α} {next : α → Act β} (h : act.Within Run.Silent)
    (hn : ∀ a, (next a).Reserved) : (act >>= next).Reserved := by
  intro run hfails
  have hact := h run
  rw [bind_run] at hfails ⊢
  generalize act run = ended at hact hfails ⊢
  rcases ended with ⟨a | failure | _ | _, after⟩
  · have hnext : after.Silent (next a after).2 := hn a after hfails
    exact hnext.trans hact
  all_goals exact hact

end Reserved

end Act

/-! ## Documents -/

theorem Download.Tells.of_ok {scope : Scope} {body : List Piece} {value : Json.Value} {after : Run}
    (h : Tells scope body (.ok value) after) :
    closeOf body = .ends ∧ Json.Decoder.document.ofStream (arriving body) = .ok value := by
  have hopen : scope.endedIn? after = none := by
    cases hended : scope.endedIn? after with
    | none => rfl
    | some failure => cases h.ended failure hended
  cases hclose : closeOf body with
  | ends =>
      have htold := h.whole hopen hclose
      cases hdecoded : Json.Decoder.document.ofStream (arriving body) with
      | error fault =>
          rw [hdecoded] at htold
          cases htold
      | ok other =>
          rw [hdecoded] at htold
          cases htold
          exact ⟨rfl, rfl⟩
  | breaks =>
      rcases h.broken hopen hclose with htold | ⟨fault, -, htold⟩
      · cases htold
      · cases htold
  | stalls =>
      rcases h.stalled hopen hclose with ⟨htold, -⟩ | ⟨fault, -, htold⟩
      · cases htold
      · cases htold

/-! ## Failed commands -/

namespace CommandLine

variable {line : CommandLine} {environment : Environment} {reaches : Url → Bool} {scope : Scope}
  {run : Run} {repository written : String}

theorem silent_saveAs (download : Download) (path : String) :
    (saveAs download path).Within Run.Silent := by
  refine Act.Within.state.bind fun run => (Act.Within.ofExcept _).bind fun created => ?_
  refine Act.Within.bind (fun _ => rfl) fun _ => ?_
  refine (download.keeps_copy {}).silent.bind fun reading => ?_
  refine Act.Within.bind (fun _ => rfl) fun _ => ?_
  cases reading.failure with
  | some failure => exact .fail failure
  | none => exact .pure _

/-- A failed command has put nothing on standard output, unless the blob itself
was to go there. -/
theorem reserved_execute
    (hother : ∀ repository written, line.command ≠ .pull repository written none)
    (client : Client) (scope : Scope) : (line.execute client scope).Reserved := by
  unfold execute
  cases hcommand : line.command with
  | «exists» repository written =>
      refine .bind (Act.Within.ofExcept _) fun digest => ?_
      exact .bind (client.keeps_holds scope repository digest).silent fun found => .change _
  | pull repository written output =>
      cases output with
      | none => exact absurd hcommand (hother repository written)
      | some path =>
          refine .bind (Act.Within.ofExcept _) fun digest => ?_
          rw [pull_eq]
          refine .bind (client.keeps_download scope repository digest).silent fun download => ?_
          refine .bind (Act.Within.ofExcept _) fun download => ?_
          exact .bind (silent_saveAs download path) fun count => .change _
  | push repository path declared asks =>
      dsimp only
      rw [push_eq]
      refine .bind Act.Within.state fun run => .bind (Act.Within.ofExcept _) fun digest => ?_
      refine .bind (Act.Within.ofExcept _) fun entry => ?_
      refine .bind (client.keeps_learn scope repository digest asks).silent fun found => ?_
      split
      · exact .change _
      · exact .bind (client.keeps_upload scope repository digest _).silent fun _ => .change _
  | config repository written =>
      refine .bind (Act.Within.ofExcept _) fun digest => ?_
      exact .bind (client.keeps_document scope repository digest .document).silent
        fun document => .change _

/-- So a run that does not end well has put nothing there, unless the blob itself
was to go there. -/
theorem silent_of_not_ok
    (hother : ∀ repository written, line.command ≠ .pull repository written none)
    (hfails : (line.run environment reaches scope run).1 ≠ .ok ()) :
    run.Silent (line.run environment reaches scope run).2 := by
  rcases line.run_cases environment reaches scope run with
    ⟨-, hkept⟩ | ⟨client, inner, begun, hbegins, houtcome, hkept⟩
  · exact hkept.stdout
  · rw [houtcome] at hfails
    have hsilent := reserved_execute hother client inner begun fun _ => hfails
    exact hkept.stdout.trans (hsilent.trans hbegins.keeps.stdout)

/-! ## Answers -/

/-- An action that keeps standard output, and its result on a line there. -/
theorem answer_run {α : Type} {act : Act α} (hact : act.Within Run.Keeps) (textOf : α → String)
    (hok : ((act >>= fun a => answer (textOf a)) run).1 = .ok ()) :
    ∃ a, (act run).1 = .ok a ∧
      Output.stdoutOf ((act >>= fun a => answer (textOf a)) run).2.output =
        Output.stdoutOf run.output ++ Utf8.ofString (textOf a ++ "\n") := by
  by_cases hvalue : ∃ a, (act run).1 = .ok a
  · obtain ⟨a, ha⟩ := hvalue
    refine ⟨a, ha, ?_⟩
    rw [Act.bind_ok (Prod.ext ha rfl)]
    show Output.stdoutOf ((act run).2.output ++ [.stdout (Utf8.ofString (textOf a ++ "\n"))]) = _
    rw [Output.stdoutOf_append, Output.stdoutOf_stdout, (hact run).stdout]
  · rw [Act.bind_of_not_ok (not_exists.mp hvalue)] at hok
    exact absurd (Outcome.forget_eq_ok.mp hok) hvalue

/-- A run that ends well has come to its command, which has ended well. -/
theorem begins_of_ok (hok : (line.run environment reaches scope run).1 = .ok ()) :
    ∃ client inner begun,
      line.Begins environment reaches scope run (.ok (client, inner)) begun ∧
      (line.execute client inner begun).1 = .ok () ∧
      Output.stdoutOf (line.run environment reaches scope run).2.output =
        Output.stdoutOf (line.execute client inner begun).2.output := by
  rcases line.run_cases environment reaches scope run with
    ⟨hfails, -⟩ | ⟨client, inner, begun, hbegins, houtcome, hkept⟩
  · exact absurd hok hfails
  · exact ⟨client, inner, begun, hbegins, houtcome ▸ hok, hkept.stdout⟩

theorem parsed_of_ok {α : Type} {next : Digest → Act α} {a : α}
    (hok : ((Act.ofExcept (Digest.parse written) >>= next) run).1 = .ok a) :
    ∃ digest, Digest.parse written = .ok digest ∧
      (Act.ofExcept (Digest.parse written) >>= next) run = next digest run := by
  cases hparse : Digest.parse written with
  | error failure =>
      rw [hparse] at hok
      cases hok
  | ok digest => exact ⟨digest, rfl, rfl⟩

/-! ## What each command puts there -/

theorem exists_prints (hcommand : line.command = .exists repository written)
    (hok : (line.run environment reaches scope run).1 = .ok ()) :
    ∃ client inner begun digest found,
      line.Begins environment reaches scope run (.ok (client, inner)) begun ∧
      Digest.parse written = .ok digest ∧
      Client.Verdict
        (client.wire.send inner (client.blobRequest repository digest .head) begun).1
        (.ok found) ∧
      Output.stdoutOf (line.run environment reaches scope run).2.output =
        Output.stdoutOf run.output ++
          Utf8.ofString ((if found then "true" else "false") ++ "\n") := by
  obtain ⟨client, inner, begun, hbegins, hexecuted, hstdout⟩ := begins_of_ok hok
  have hexecute : line.execute client inner = (Act.ofExcept (Digest.parse written) >>=
      fun digest => client.holds inner repository digest >>= fun found =>
        answer (if found then "true" else "false")) := by
    unfold execute
    rw [hcommand]
  rw [hexecute] at hexecuted hstdout
  obtain ⟨digest, hparse, hrest⟩ := parsed_of_ok hexecuted
  rw [hrest] at hexecuted hstdout
  obtain ⟨found, hfound, hprinted⟩ :=
    answer_run (client.keeps_holds inner repository digest) _ hexecuted
  have hverdict := (client.holds_verdict inner repository digest begun).1
  rw [hfound] at hverdict
  rw [hprinted, hbegins.keeps.stdout] at hstdout
  exact ⟨client, inner, begun, digest, found, hbegins, hparse, hverdict, hstdout⟩

theorem config_prints (hcommand : line.command = .config repository written)
    (hok : (line.run environment reaches scope run).1 = .ok ()) :
    ∃ client inner begun digest download opened value,
      line.Begins environment reaches scope run (.ok (client, inner)) begun ∧
      Digest.parse written = .ok digest ∧
      client.download inner repository digest begun = (.ok download, opened) ∧
      Download.closeOf download.response.body = .ends ∧
      Json.Decoder.document.ofStream (Download.arriving download.response.body) = .ok value ∧
      Output.stdoutOf (line.run environment reaches scope run).2.output =
        Output.stdoutOf run.output ++ Utf8.ofString (String.ofList value.pretty ++ "\n") := by
  obtain ⟨client, inner, begun, hbegins, hexecuted, hstdout⟩ := begins_of_ok hok
  have hexecute : line.execute client inner = (Act.ofExcept (Digest.parse written) >>=
      fun digest => client.document .document inner repository digest >>= fun value =>
        answer (String.ofList value.pretty)) := by
    unfold execute
    rw [hcommand]
  rw [hexecute] at hexecuted hstdout
  obtain ⟨digest, hparse, hrest⟩ := parsed_of_ok hexecuted
  rw [hrest] at hexecuted hstdout
  obtain ⟨value, hvalue, hprinted⟩ :=
    answer_run (client.keeps_document inner repository digest .document) _ hexecuted
  obtain ⟨download, opened, hdownload, -⟩ := Act.bind_eq_ok (Prod.ext hvalue rfl)
  have htells := Client.tells_document hdownload
  rw [hvalue] at htells
  obtain ⟨hends, hdecoded⟩ := htells.of_ok
  rw [hprinted, hbegins.keeps.stdout] at hstdout
  exact ⟨client, inner, begun, digest, download, opened, value, hbegins, hparse, hdownload, hends,
    hdecoded, hstdout⟩

theorem pull_prints (hcommand : line.command = .pull repository written none) {inner : Scope}
    {response : Response} {answered : Run}
    (h : line.Fetches environment reaches scope run repository written inner response answered)
    (hs : response.status.isSuccess = true) :
    let ended := line.run environment reaches scope run
    ∃ content, Download.Copied inner response.body content ended.1 ended.2 ∧
      Output.stdoutOf ended.2.output = Output.stdoutOf run.output ++ content := by
  intro ended
  obtain ⟨opened, shown, hopened, hended, hshown⟩ := pull_fetched hcommand h hs
  obtain ⟨content, hcopied, hprinted⟩ :=
    printOut_copies { response, scope := inner } (answered.withOutput opened)
  have hlogger : line.logger.stderrOnly = true := by
    unfold logger
    rw [hcommand]
  have hbefore : Output.stdoutOf (answered.withOutput opened).output =
      Output.stdoutOf run.output := hopened
  rw [hbefore] at hprinted
  rw [show ended = _ from hended]
  exact ⟨content, hcopied.congr rfl, (hshown (.inl hlogger)).trans hprinted⟩

/-- What a run puts on standard output, whatever its options say about its log.

A pull without a file puts there the octets of the body, if it ends well; if it
fails, nothing, or what had come in of the body when reading failed.  The
question for a blob puts there its answer, and a document is put there with its
indentation, each on a line of its own.  No other run that does not end well
has put anything there. -/
theorem standard_output_holds_answers (line : CommandLine) (environment : Environment)
    (reaches : Url → Bool) (scope : Scope) (run : Run) :
    let ended := line.run environment reaches scope run
    let begins := line.Begins environment reaches scope run
    let fetches := line.Fetches environment reaches scope run
    let before := Output.stdoutOf run.output
    let after := Output.stdoutOf ended.2.output
    (∀ repository written, line.command = .pull repository written none →
      (ended.1 = .ok () → ∃ inner response answered, ∃ datas : List Bytes,
        fetches repository written inner response answered ∧ response.status.isSuccess = true ∧
        response.body.map (·.data) = datas.map some ∧ after = before ++ datas.flatten) ∧
      (∀ failure, ended.1 = .failed failure → after = before ∨
        ∃ inner response answered bytes,
          fetches repository written inner response answered ∧ response.status.isSuccess = true ∧
          Download.Brings inner response.body bytes (.failed failure) ended.2 ∧
          after = before ++ bytes)) ∧
    (∀ repository written, line.command = .exists repository written → ended.1 = .ok () →
      ∃ client inner begun digest found,
        begins (.ok (client, inner)) begun ∧ Digest.parse written = .ok digest ∧
        Client.Verdict
          (client.wire.send inner (client.blobRequest repository digest .head) begun).1
          (.ok found) ∧
        after = before ++ Utf8.ofString ((if found then "true" else "false") ++ "\n")) ∧
    (∀ repository written, line.command = .config repository written → ended.1 = .ok () →
      ∃ client inner begun digest download opened value,
        begins (.ok (client, inner)) begun ∧ Digest.parse written = .ok digest ∧
        client.download inner repository digest begun = (.ok download, opened) ∧
        Download.closeOf download.response.body = .ends ∧
        Json.Decoder.document.ofStream (Download.arriving download.response.body) = .ok value ∧
        after = before ++ Utf8.ofString (String.ofList value.pretty ++ "\n")) ∧
    ((∀ repository written, line.command ≠ .pull repository written none) →
      ended.1 ≠ .ok () → after = before) := by
  intro ended begins fetches before after
  refine ⟨fun repository written hcommand => ⟨fun hok => ?_, fun failure hfailed => ?_⟩,
    fun repository written hcommand hok => exists_prints hcommand hok,
    fun repository written hcommand hok => config_prints hcommand hok,
    fun hother hfails => silent_of_not_ok hother hfails⟩
  · obtain ⟨inner, response, answered, hfetched, hs⟩ := fetched_of_ok hcommand hok
    obtain ⟨content, hcopied, hprinted⟩ := pull_prints hcommand hfetched hs
    obtain ⟨datas, hdata, rfl⟩ := Download.Copied.whole (hok ▸ hcopied)
    exact ⟨inner, response, answered, datas, hfetched, hs, hdata, hprinted⟩
  · by_cases hfetches : ∃ inner response answered,
        fetches repository written inner response answered ∧ response.status.isSuccess = true
    · obtain ⟨inner, response, answered, hfetched, hs⟩ := hfetches
      obtain ⟨content, hcopied, hprinted⟩ := pull_prints hcommand hfetched hs
      have hbroken : Download.Copied inner response.body content (.failed failure) ended.2 :=
        hfailed ▸ hcopied
      exact .inr ⟨inner, response, answered, content, hfetched, hs, hbroken.brings nofun, hprinted⟩
    · exact .inl (pull_unfetched hcommand hfetches).2.stdout

end CommandLine

end OciBlobs
