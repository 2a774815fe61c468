/-
# `Proofs.Command.Pull` — pulling a blob

A pull asks for its blob once (`Fetches`).  As long as no answer with a success
has come, it has changed neither a file nor standard output, and it does not end
well (`pull_unfetched`).  Then it copies the body (`pull_fetched`) into a file,
which was not made or emptied before, or to standard output.  The copy is what
came in of the body until reading was closed (`Brings`, `Copied`).
-/
import OciBlobs.Proofs.Blob.Ways
import OciBlobs.Proofs.Client
import OciBlobs.Proofs.Command.Begin
import OciBlobs.Proofs.Files

namespace OciBlobs

open Http

/-! ## What comes in of a body -/

namespace Download

/-- The octets that come in of a body until its reading closes, and how it
does. -/
inductive Brings (scope : Scope) : List Piece → Bytes → Outcome Unit → Run → Prop
  | upTo {came left : List Piece} {datas : List Bytes} {ending : Outcome Unit} {after : Run}
      (data : came.map (·.data) = datas.map some) (closes : Closes scope left ending after) :
      Brings scope (came ++ left) datas.flatten ending after

variable {scope : Scope} {body : List Piece} {run after last : Run} {datas : List Bytes}
  {bytes : Bytes} {ending : Outcome Unit} {download : Download}

theorem Course.brings (h : Course scope body run datas ending after) :
    Brings scope body datas.flatten ending after := by
  obtain ⟨came, left, rfl, hdata, hcloses⟩ := h.closes
  exact .upTo hdata hcloses

namespace Brings

theorem whole (h : Brings scope body bytes (.ok ()) after) :
    ∃ datas : List Bytes, body.map (·.data) = datas.map some ∧ bytes = datas.flatten := by
  cases h with
  | @upTo came left datas _ _ hdata hcloses =>
      cases hcloses with
      | whole _ => exact ⟨datas, (List.append_nil came).symm ▸ hdata, rfl⟩

/-- A reading fails because the body breaks off or the scope has ended. -/
theorem cause {failure : Failure} (h : Brings scope body bytes (.failed failure) after) :
    failure = .exchange .answerBody ∨ failure = .cancelled ∨ failure = .deadlineExceeded := by
  cases h with
  | upTo _ hcloses =>
      cases hcloses with
      | broken _ => exact .inl rfl
      | ended he =>
          rcases Scope.endedIn_eq_some.mp he with ⟨-, hcancelled⟩ | ⟨-, -, hover⟩
          · exact .inr (.inl hcancelled)
          · exact .inr (.inr hover)

theorem not_overflow (h : Brings scope body bytes ending after) : ending ≠ .overflow := by
  cases h with
  | upTo _ hcloses => cases hcloses <;> nofun

theorem congr (h : Brings scope body bytes ending after)
    (hsame : scope.endedIn? last = scope.endedIn? after) :
    Brings scope body bytes ending last := by
  cases h with
  | upTo hdata hcloses =>
      refine .upTo hdata ?_
      cases hcloses with
      | whole hopen => exact .whole (hsame.trans hopen)
      | broken hbreaks => exact .broken hbreaks
      | ended he => exact .ended (hsame.trans he)
      | endless hstalls hopen hd => exact .endless hstalls (hsame.trans hopen) hd

end Brings

/-- The content is what comes in of a body, unless its reading never closes. -/
def Copied (scope : Scope) (body : List Piece) (content : Bytes) (ending : Outcome Unit)
    (after : Run) : Prop :=
  ∃ bytes, Brings scope body bytes ending after ∧ (ending ≠ .stuck → content = bytes)

namespace Copied

variable {content : Bytes}

theorem brings (h : Copied scope body content ending after) (hne : ending ≠ .stuck) :
    Brings scope body content ending after := by
  obtain ⟨bytes, hbrings, hcontent⟩ := h
  exact hcontent hne ▸ hbrings

theorem whole (h : Copied scope body content (.ok ()) after) :
    ∃ datas : List Bytes, body.map (·.data) = datas.map some ∧ content = datas.flatten :=
  (h.brings nofun).whole

theorem cause {failure : Failure} (h : Copied scope body content (.failed failure) after) :
    failure = .exchange .answerBody ∨ failure = .cancelled ∨ failure = .deadlineExceeded :=
  (h.brings nofun).cause

theorem congr (h : Copied scope body content ending after)
    (hsame : scope.endedIn? last = scope.endedIn? after) :
    Copied scope body content ending last := by
  obtain ⟨bytes, hbrings, hcontent⟩ := h
  exact ⟨bytes, hbrings.congr hsame, hcontent⟩

end Copied

theorem copy_follows (h : Course download.scope download.response.body run datas ending after) :
    download.copy {} run =
      (ending.told fun failure => { pieces := datas.flatMap writesOf, failure }, after) :=
  (takesEach_copy download.scope _).follows h 0

theorem keeps_copy (download : Download) (sink : Sink) : (download.copy sink).Within Run.Keeps :=
  Act.reads_keeps.copyFrom download.scope sink 0 download.response.body

end Download

/-! ## Copies -/

namespace CommandLine

open Download

def copyTo (output : Option String) (download : Download) : Act Nat :=
  match output with
  | some path => saveAs download path
  | none => printOut download

/-- Copies a download, and changes the run by what was read of it. -/
def copyBy (change : Bytes → Run → Run) (download : Download) : Act Nat := do
  let reading ← download.copy {}
  .change (change reading.bytes)
  match reading.failure with
  | some failure => .fail failure
  | none => pure reading.bytes.length

/-- The run is changed by what came in of the body, unless that never closes. -/
theorem copyBy_run (change : Bytes → Run → Run) (download : Download) (run : Run) :
    let copied := copyBy change download run
    ∃ bytes ending after, run.Keeps after ∧
      Brings download.scope download.response.body bytes ending after ∧
      (copied = (ending.giving bytes.length, change bytes after) ∨
        ending = .stuck ∧ copied = (.stuck, after)) := by
  intro copied
  obtain ⟨datas, ending, after, hcourse⟩ :=
    course_exists download.scope download.response.body run
  have hcopy := copy_follows hcourse
  have hkeeps : run.Keeps after := by
    have hkeeps := download.keeps_copy {} run
    rwa [hcopy] at hkeeps
  have hbrings := hcourse.brings
  have hcopied : copied = _ := Act.bind_run (download.copy {}) _ run
  rw [hcopy] at hcopied
  refine ⟨_, ending, after, hkeeps, hbrings, ?_⟩
  rw [hcopied]
  cases ending with
  | ok _ =>
      left
      show (Outcome.ok (datas.flatMap writesOf).flatten.length,
        change (datas.flatMap writesOf).flatten after) = _
      rw [flatten_writes]
      rfl
  | failed failure =>
      left
      show (Outcome.failed failure, change (datas.flatMap writesOf).flatten after) = _
      rw [flatten_writes]
      rfl
  | stuck => exact .inr ⟨rfl, rfl⟩
  | overflow => exact absurd rfl hbrings.not_overflow

theorem forget_giving (ending : Outcome Unit) (count : Nat) :
    (ending.giving count).forget = ending := by
  cases ending <;> rfl

/-- A file that is made for a download holds what came in of its body, and the
other files are as they were. -/
theorem saveAs_copies (download : Download) {path : String} {run : Run} {emptied : Files}
    {place : Files.Place} (hcreate : run.files.create path = .ok (emptied, place)) :
    let saved := saveAs download path run
    ∃ content, Copied download.scope download.response.body content saved.1.forget saved.2 ∧
      saved.2.files = run.files.put place (.file content) := by
  intro saved
  obtain ⟨-, rfl⟩ := Files.create_eq_ok hcreate
  let made : Run := { run with files := run.files.put place (.file []) }
  have hsaved : saved = copyBy (fun bytes after =>
      { after with files := after.files.put place (.file bytes) }) download made := by
    show (Act.ofExcept ((run.files.create path).mapError Failure.io) >>= _) run = _
    rw [hcreate]
    rfl
  obtain ⟨bytes, ending, after, hkeeps, hbrings, hcopied | ⟨rfl, hcopied⟩⟩ :=
    copyBy_run _ download made
  · rw [hsaved, hcopied, forget_giving]
    refine ⟨bytes, ⟨bytes, hbrings.congr rfl, fun _ => rfl⟩, ?_⟩
    show after.files.put place (.file bytes) = _
    rw [hkeeps.files, Files.put_put]
  · rw [hsaved, hcopied]
    exact ⟨[], ⟨bytes, hbrings, fun h => absurd rfl h⟩, hkeeps.files⟩

theorem saveAs_uncreated (download : Download) {path : String} {run : Run} {error : IoError}
    (hcreate : run.files.create path = .error error) :
    saveAs download path run = (.failed (.io error), run) := by
  show (Act.ofExcept ((run.files.create path).mapError Failure.io) >>= _) run = _
  rw [hcreate]
  rfl

theorem printOut_copies (download : Download) (run : Run) :
    let printed := printOut download run
    ∃ content,
      Copied download.scope download.response.body content printed.1.forget printed.2 ∧
      Output.stdoutOf printed.2.output = Output.stdoutOf run.output ++ content := by
  intro printed
  have hprinted : printed = copyBy (fun bytes after =>
      { after with output := after.output ++ [.stdout bytes] }) download run := rfl
  obtain ⟨bytes, ending, after, hkeeps, hbrings, hcopied | ⟨rfl, hcopied⟩⟩ :=
    copyBy_run _ download run
  · rw [hprinted, hcopied, forget_giving]
    refine ⟨bytes, ⟨bytes, hbrings.congr rfl, fun _ => rfl⟩, ?_⟩
    show Output.stdoutOf (after.output ++ [.stdout bytes]) = _
    rw [Output.stdoutOf_append, Output.stdoutOf_stdout, hkeeps.stdout]
  · rw [hprinted, hcopied]
    refine ⟨[], ⟨bytes, hbrings, fun h => absurd rfl h⟩, ?_⟩
    exact hkeeps.stdout.trans (List.append_nil _).symm

end CommandLine

/-! ## Answers -/

namespace Client

variable {client : Client} {scope : Scope} {repository : String} {digest : Digest} {run : Run}

theorem download_answered {response : Response} {answered : Run}
    (h : client.wire.send scope (client.blobRequest repository digest .get) run =
      (.ok response, answered)) :
    ∃ shown, Output.stdoutOf shown = Output.stdoutOf run.output ∧
      client.download scope repository digest run =
        (.ok { response, scope }, answered.withOutput shown) := by
  obtain ⟨shown, hrun⟩ := client.annotates_download scope repository digest run
  rw [Act.bind_ok h] at hrun
  have hkeeps := client.keeps_download scope repository digest run
  rw [hrun] at hkeeps
  exact ⟨shown, hkeeps.stdout, hrun⟩

theorem answered_of_download {download : Download}
    (h : (client.download scope repository digest run).1 = .ok download) :
    ∃ answered, client.wire.send scope (client.blobRequest repository digest .get) run =
      (.ok download.response, answered) := by
  obtain ⟨last, hlast, -⟩ :=
    (client.annotates_download scope repository digest).ok (Prod.ext h rfl)
  obtain ⟨response, answered, hsent, hpure⟩ := Act.bind_eq_ok hlast
  cases hpure
  exact ⟨_, hsent⟩

end Client

namespace CommandLine

variable {line : CommandLine} {client : Client} {scope : Scope} {run : Run}
  {repository written : String} {digest : Digest} {output : Option String}

theorem pull_eq (line : CommandLine) (client : Client) (scope : Scope) (repository : String)
    (digest : Digest) (output : Option String) :
    line.pull client scope repository digest output =
      client.download scope repository digest >>= fun download =>
        .ofExcept download.success >>= fun download =>
        copyTo output download >>= fun count =>
        .note line.logger
          ⟨.success, "Pulled blob " ++ digest.short ++ " (" ++ Size.render count ++ ")"⟩ := by
  cases output with
  | some path => rfl
  | none => rfl

theorem pull_refused
    (h : ∀ download, (client.download scope repository digest run).1 = .ok download →
      download.response.status.isSuccess = false) :
    let pulled := line.pull client scope repository digest output run
    pulled.1 ≠ .ok () ∧ run.Keeps pulled.2 := by
  intro pulled
  have hkeeps := client.keeps_download scope repository digest run
  have hpulled : pulled = _ := congrFun (line.pull_eq client scope repository digest output) run
  by_cases hopened : ∃ download, (client.download scope repository digest run).1 = .ok download
  · obtain ⟨download, hdownload⟩ := hopened
    have hrefused : download.success =
        .error (.status download.response.status download.response.url.text) := by
      unfold Download.success Response.success
      rw [h download hdownload]
      rfl
    rw [hpulled, Act.bind_ok (Prod.ext hdownload rfl), hrefused]
    exact ⟨nofun, hkeeps⟩
  · rw [hpulled, Act.bind_of_not_ok (not_exists.mp hopened)]
    exact ⟨fun hok => hopened (Outcome.forget_eq_ok.mp hok), hkeeps⟩

theorem pull_copies (line : CommandLine) (output : Option String) {response : Response}
    {answered : Run} (h : client.wire.send scope (client.blobRequest repository digest .get) run =
      (.ok response, answered)) (hs : response.status.isSuccess = true) :
    ∃ opened shown, Output.stdoutOf opened = Output.stdoutOf run.output ∧
      let copied := copyTo output { response, scope } (answered.withOutput opened)
      line.pull client scope repository digest output run =
        (copied.1.forget, copied.2.withOutput shown) ∧
      (line.logger.stderrOnly = true ∨ copied.1.forget ≠ .ok () →
        Output.stdoutOf shown = Output.stdoutOf copied.2.output) := by
  obtain ⟨opened, hopened, hdownload⟩ := Client.download_answered h
  have hsuccess : Download.success { response, scope } = .ok { response, scope } := by
    unfold Download.success Response.success
    rw [if_pos hs]
  obtain ⟨shown, hnoted, hstdout⟩ := Act.noted_run (copyTo output { response, scope }) line.logger
    (fun count => ⟨.success, "Pulled blob " ++ digest.short ++ " (" ++ Size.render count ++ ")"⟩)
    (answered.withOutput opened)
  refine ⟨opened, shown, hopened, ?_, fun hquiet => hstdout fun count hcount => ?_⟩
  · rw [pull_eq, Act.bind_ok hdownload, hsuccess]
    exact hnoted
  · rcases hquiet with hquiet | hfails
    · exact .inr hquiet
    · exact absurd (Outcome.forget_eq_ok.mpr ⟨count, hcount⟩) hfails

/-! ## From the command line on -/

section
variable (line : CommandLine) (environment : Environment) (reaches : Url → Bool) (scope : Scope)
  (run : Run) (repository written : String)

/-- A run comes to its command and gets an answer to its request for a blob. -/
inductive Fetches : Scope → Response → Run → Prop
  | answered {client : Client} {inner : Scope} {begun answered : Run} {digest : Digest}
      {response : Response}
      (begins : line.Begins environment reaches scope run (.ok (client, inner)) begun)
      (parsed : Digest.parse written = .ok digest)
      (sent : client.wire.send inner (client.blobRequest repository digest .get) begun =
        (.ok response, answered)) :
      Fetches inner response answered

end

variable {environment : Environment} {reaches : Url → Bool} {inner : Scope} {response : Response}
  {answered : Run}

theorem Fetches.keeps
    (h : line.Fetches environment reaches scope run repository written inner response answered) :
    run.Keeps answered := by
  cases h with
  | @answered client _ begun _ digest _ hbegins _ hsent =>
      have hsend := client.wire.keeps_send inner (client.blobRequest repository digest .get) begun
      rw [hsent] at hsend
      exact hbegins.keeps.trans hsend

theorem execute_pull (hcommand : line.command = .pull repository written output)
    (client : Client) (scope : Scope) :
    line.execute client scope = (.ofExcept (Digest.parse written) >>= fun digest =>
      line.pull client scope repository digest output) := by
  unfold execute
  rw [hcommand]

/-- A pull that gets no answer with a success does not end well, and has changed
neither a file nor standard output. -/
theorem pull_unfetched (hcommand : line.command = .pull repository written output)
    (hnever : ¬∃ inner response answered,
      line.Fetches environment reaches scope run repository written inner response answered ∧
        response.status.isSuccess = true) :
    let ended := line.run environment reaches scope run
    ended.1 ≠ .ok () ∧ run.Keeps ended.2 := by
  intro ended
  rcases line.run_cases environment reaches scope run with
    hmissed | ⟨client, inner, begun, hbegins, houtcome, hkept⟩
  · exact hmissed
  · have hexecuted : (line.execute client inner begun).1 ≠ .ok () ∧
        begun.Keeps (line.execute client inner begun).2 := by
      rw [execute_pull hcommand]
      cases hparse : Digest.parse written with
      | error failure => exact ⟨nofun, refl begun⟩
      | ok digest =>
          refine pull_refused fun download hdownload => ?_
          obtain ⟨answered, hsent⟩ := Client.answered_of_download hdownload
          rw [Bool.eq_false_iff]
          intro hs
          exact hnever ⟨inner, _, answered, .answered hbegins hparse hsent, hs⟩
    exact ⟨houtcome ▸ hexecuted.1, hbegins.keeps.trans (hexecuted.2.trans hkept)⟩

theorem fetched_of_ok (hcommand : line.command = .pull repository written output)
    (hok : (line.run environment reaches scope run).1 = .ok ()) :
    ∃ inner response answered,
      line.Fetches environment reaches scope run repository written inner response answered ∧
        response.status.isSuccess = true :=
  Classical.byContradiction fun hnever => (pull_unfetched hcommand hnever).1 hok

theorem pull_fetched (hcommand : line.command = .pull repository written output)
    (h : line.Fetches environment reaches scope run repository written inner response answered)
    (hs : response.status.isSuccess = true) :
    ∃ opened shown, Output.stdoutOf opened = Output.stdoutOf run.output ∧
      let copied := copyTo output { response, scope := inner } (answered.withOutput opened)
      line.run environment reaches scope run = (copied.1.forget, copied.2.withOutput shown) ∧
      (line.logger.stderrOnly = true ∨ copied.1.forget ≠ .ok () →
        Output.stdoutOf shown = Output.stdoutOf copied.2.output) := by
  cases h with
  | @answered client _ begun _ digest _ hbegins hparse hsent =>
      obtain ⟨last, hlast, hended⟩ := hbegins.carried
      obtain ⟨opened, shown, hopened, hpulled, hstdout⟩ :=
        line.pull_copies output hsent hs
      have hexecute : line.execute client inner begun =
          line.pull client inner repository digest output begun := by
        rw [execute_pull hcommand, hparse]
        rfl
      rw [hexecute, hpulled] at hended hlast
      refine ⟨opened, last, hopened.trans hbegins.keeps.stdout, hended, fun hquiet => ?_⟩
      exact hlast.trans (hstdout hquiet)

theorem pull_uncreated {path : String} {error : IoError}
    (hcommand : line.command = .pull repository written (some path))
    (h : line.Fetches environment reaches scope run repository written inner response answered)
    (hs : response.status.isSuccess = true) (hcreate : run.files.create path = .error error) :
    let ended := line.run environment reaches scope run
    ended.1 = .failed (.io error) ∧ ended.2.files = run.files := by
  intro ended
  obtain ⟨opened, shown, -, hended, -⟩ := pull_fetched hcommand h hs
  have hfiles : (answered.withOutput opened).files = run.files := h.keeps.files
  have hsaved : copyTo (some path) { response, scope := inner } (answered.withOutput opened) =
      (.failed (.io error), answered.withOutput opened) :=
    saveAs_uncreated _ (hfiles ▸ hcreate)
  rw [show ended = _ from hended, hsaved]
  exact ⟨rfl, hfiles⟩

theorem pull_created {path : String} {created : Files × Files.Place}
    (hcommand : line.command = .pull repository written (some path))
    (h : line.Fetches environment reaches scope run repository written inner response answered)
    (hs : response.status.isSuccess = true) (hcreate : run.files.create path = .ok created) :
    let ended := line.run environment reaches scope run
    ∃ content, Download.Copied inner response.body content ended.1 ended.2 ∧
      run.files.Saved path content ended.2.files := by
  intro ended
  obtain ⟨opened, shown, -, hended, -⟩ := pull_fetched hcommand h hs
  have hfiles : (answered.withOutput opened).files = run.files := h.keeps.files
  obtain ⟨hdestination, -⟩ := Files.create_eq_ok hcreate
  obtain ⟨content, hcopied, hput⟩ :=
    saveAs_copies { response, scope := inner } (hfiles ▸ hcreate)
  rw [hfiles] at hput
  rw [show ended = _ from hended]
  exact ⟨content, hcopied.congr rfl, hput ▸ hdestination.saved content⟩

/-- A pull into a file, from the command line on.

If it ends well, its request was answered with a success, and the path leads to
a file with the octets of that body.  If it gets no such answer, it does not end
well, and all files are as they were.  If it gets one, and a file can be made at
the path, that and no other is touched; it holds no more than came in of the body
until that was closed, and if the pull fails, it fails as reading did. -/
theorem pull_keeps_files_until_answered {path : String} (environment : Environment)
    (reaches : Url → Bool) (scope : Scope) (run : Run)
    (hcommand : line.command = .pull repository written (some path)) :
    let ended := line.run environment reaches scope run
    let fetches := line.Fetches environment reaches scope run repository written
    (ended.1 = .ok () → ∃ inner response answered, ∃ datas : List Bytes,
      fetches inner response answered ∧ response.status.isSuccess = true ∧
      response.body.map (·.data) = datas.map some ∧
      run.files.Saved path datas.flatten ended.2.files) ∧
    ((¬∃ inner response answered, fetches inner response answered ∧
        response.status.isSuccess = true) →
      ended.1 ≠ .ok () ∧ ended.2.files = run.files) ∧
    ∀ inner response answered, fetches inner response answered →
      response.status.isSuccess = true →
      (∀ error, run.files.create path = .error error →
        ended.1 = .failed (.io error) ∧ ended.2.files = run.files) ∧
      ∀ created, run.files.create path = .ok created →
        ∃ bytes content, Download.Brings inner response.body bytes ended.1 ended.2 ∧
          (ended.1 ≠ .stuck → content <+: bytes) ∧ (ended.1 = .ok () → content = bytes) ∧
          (∀ failure, ended.1 = .failed failure → failure = .exchange .answerBody ∨
            failure = .cancelled ∨ failure = .deadlineExceeded) ∧
          run.files.Saved path content ended.2.files := by
  intro ended fetches
  refine ⟨fun hok => ?_, fun hnever => ?_, fun inner response answered hfetched hs => ⟨?_, ?_⟩⟩
  · obtain ⟨inner, response, answered, hfetched, hs⟩ := fetched_of_ok hcommand hok
    cases hcreate : run.files.create path with
    | error error =>
        have hfailed : ended.1 = .failed (.io error) :=
          (pull_uncreated hcommand hfetched hs hcreate).1
        rw [hok] at hfailed
        cases hfailed
    | ok created =>
        obtain ⟨content, hcopied, hsaved⟩ := pull_created hcommand hfetched hs hcreate
        obtain ⟨datas, hdata, rfl⟩ := Download.Copied.whole (hok ▸ hcopied)
        exact ⟨inner, response, answered, datas, hfetched, hs, hdata, hsaved⟩
  · obtain ⟨hfails, hkeeps⟩ := pull_unfetched hcommand hnever
    exact ⟨hfails, hkeeps.files⟩
  · intro error hcreate
    exact pull_uncreated hcommand hfetched hs hcreate
  · intro created hcreate
    obtain ⟨content, hcopied, hsaved⟩ := pull_created hcommand hfetched hs hcreate
    obtain ⟨bytes, hbrings, hcontent⟩ := hcopied
    refine ⟨bytes, content, hbrings, fun hends => ?_, fun hok => ?_, fun failure hfailed => ?_,
      hsaved⟩
    · exact hcontent hends ▸ List.prefix_rfl
    · exact hcontent (by rw [hok]; nofun)
    · exact Download.Brings.cause (hfailed ▸ hbrings)

/-- A file of one octet, and a body of three in two pieces. -/
theorem pull_keeps_files_until_answered_two_pieces :
    let line : CommandLine := { registry := some "http://h", command := .pull "r" "a:b" (some "f") }
    let body : List Piece := [{ data := some [1, 2] }, { data := some [3] }]
    let run : Run :=
      { files := { entries := [({ names := ["f"] }, .file [9])] }
        replies := [{ ending := .answer { body } none }] }
    let scope : Scope := { token := [] }
    (line.run [] (fun _ => true) scope run).1 = .ok () ∧
      run.files.Saved "f" [1, 2, 3] (line.run [] (fun _ => true) scope run).2.files := by
  intro line body run scope
  let client : Client := .ofHost line.logger
  let inner : Scope := (Settings.new "http://h").ownScope scope run
  let digest : Digest := ⟨['a'], ['b'], by decide, by decide, by decide, by decide⟩
  let response : Response := { body, url := client.address.blob "r" digest }
  have hcommand : line.command = .pull "r" "a:b" (some "f") := rfl
  have hbegins : line.Begins [] (fun _ => true) scope run (.ok (client, inner)) run.begun :=
    .ready rfl (Client.ofSettings_host line.logger) (Settings.fitsClock_new "http://h")
  have hparse : Digest.parse "a:b" = .ok digest := Except.eq_ok_of_toOption (by decide +kernel)
  have hanswer : (client.wire.send inner (client.blobRequest "r" digest .get) run.begun).1 =
      .ok response :=
    Outcome.eq_ok_of_value (by decide +kernel)
  have hsent := Prod.eta (client.wire.send inner (client.blobRequest "r" digest .get) run.begun)
  rw [hanswer] at hsent
  have hcreate : run.files.create "f" =
      .ok ({ entries := [({ names := ["f"] }, .file [])] }, { names := ["f"] }) :=
    Except.eq_ok_of_toOption (by decide +kernel)
  obtain ⟨-, -, hanswered⟩ := pull_keeps_files_until_answered [] (fun _ => true) scope run hcommand
  have hsuccess : response.status.isSuccess = true := rfl
  have hfetched := Fetches.answered hbegins hparse hsent.symm
  have hok : (line.run [] (fun _ => true) scope run).1 = .ok () :=
    Outcome.eq_ok_of_value (by decide +kernel)
  obtain ⟨-, hcreated⟩ := hanswered inner response _ hfetched hsuccess
  obtain ⟨bytes, content, hbrings, -, hcontent, -, hsaved⟩ := hcreated _ hcreate
  rw [hok] at hbrings
  obtain ⟨datas, hdata, rfl⟩ := hbrings.whole
  have hdatas : [[1, 2], [3]] = datas := (List.map_inj_right fun _ _ => Option.some.inj).mp hdata
  rw [hcontent hok, ← hdatas] at hsaved
  exact ⟨hok, hsaved⟩

end CommandLine

end OciBlobs
