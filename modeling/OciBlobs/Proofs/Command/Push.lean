/-
# `Proofs.Command.Push` — pushing a file

A push reads its file twice, for the digest and for the content, and what it
sends under the one is the other (`digestToPush_ok`, `uploads_closing`).  Before
it uploads anything it may ask whether the blob is there (`Client.learn`), and
what it is told decides (`PushCourse`):

    there     the blob is there       nothing more is sent, and all is well
    unknown   that cannot be told     nothing more is sent; the same failure
    absent    it is not there         the upload takes its course
-/
import OciBlobs.Proofs.Blob.Content
import OciBlobs.Proofs.Blob.Presence
import OciBlobs.Proofs.Client
import OciBlobs.Proofs.Command.Begin
import OciBlobs.Proofs.Digest
import OciBlobs.Proofs.Files
import OciBlobs.Proofs.Registry.Location

namespace OciBlobs

open Http

/-! ## What is uploaded -/

/-- A request that uploads content under a digest. -/
structure Http.Request.Uploads (request : Request) (digest : Digest) (content : Bytes) : Prop where
  method : request.method = .put
  body : ∃ sent, request.body = some sent ∧ sent.bytes = content ∧ sent.breaks = false
  /-- Its query has one digest. -/
  digest : (request.url.pairs.filter fun pair => pair.1 == Registry.digestKey) =
    [(Registry.digestKey, digest.chars)]

theorem Registry.digest_withDigest (location : Url) (digest : Digest) :
    ((withDigest location digest).pairs.filter fun pair => pair.1 == digestKey) =
      [(digestKey, digest.chars)] := by
  have hkept : (keptPairs location).filter (fun pair => pair.1 == digestKey) = [] := by
    refine List.filter_eq_nil_iff.mpr fun pair hm => ?_
    have hother := (List.mem_filter.mp hm).2
    simpa using hother
  have hpairs : (withDigest location digest).pairs =
      keptPairs location ++ [(digestKey, digest.chars)] := Url.pairs_withPairs _ _
  rw [hpairs, List.filter_append, hkept, List.nil_append]
  exact List.filter_cons_of_pos (by simp)

def Files.sent (content : Bytes) : Content :=
  .ofReads (Entry.file content).reads

theorem Files.sent_eq (content : Bytes) :
    sent content = { pieces := readsOf content, repeatable := false } :=
  Content.ofReads_ok (readsOf content)

theorem uploads_closing (tokenHeader : String) (answer : Answer) (location : Url)
    (digest : Digest) (content : Bytes) :
    (UploadSession.closing tokenHeader answer location digest (Files.sent content)).Uploads digest
      content where
  method := rfl
  body := by
    refine ⟨Files.sent content, rfl, ?_, ?_⟩
    · rw [Files.sent_eq]
      exact Files.readsOf_flatten content
    · rw [Files.sent_eq]
  digest := Registry.digest_withDigest location digest

/-- A file is pushed under the digest that was declared for it, or else under its
own. -/
theorem CommandLine.digestToPush_ok {files : Files} {path : String} {content : Bytes}
    {declared : Option String} (hfile : files.open? path = .ok (.file content))
    (hdeclared : ∀ text, declared = some text → ∃ digest, Digest.parse text = .ok digest) :
    ∃ digest, digestToPush files path declared = .ok digest ∧
      digest.text = declared.getD
        ("sha256:" ++ String.ofList (Bytes.toHex (Sha256.hash content).toBytes)) := by
  cases declared with
  | some text =>
      obtain ⟨digest, hparse⟩ := hdeclared text rfl
      exact ⟨digest, hparse, Digest.text_of_parse hparse⟩
  | none =>
      have hhash : Digest.ofReads (Entry.file content).reads = .ok (Digest.sha256 content) := by
        have hreads := Digest.ofReads_ok (Files.readsOf_ne_nil content)
        rwa [Files.readsOf_flatten] at hreads
      refine ⟨Digest.sha256 content, ?_, Digest.text_sha256 content⟩
      show ((files.open? path).mapError Failure.io >>= fun entry =>
        (Digest.ofReads entry.reads).mapError Failure.io) = _
      rw [hfile]
      show (Digest.ofReads (Entry.file content).reads).mapError Failure.io = _
      rw [hhash]
      rfl

/-! ## What is asked before -/

namespace Client

variable (client : Client) (scope : Scope) (repository : String) (digest : Digest)
  (asks : Bool) (content : Bytes) (run : Run)

/-- Learns whether a blob is there before it is pushed; a push that does not ask
takes it as absent. -/
def learn : Act Bool :=
  if asks then client.holds scope repository digest else pure false

/-- The requests by which a push learns that. -/
def asked : List Request :=
  if asks = true ∧ scope.endedIn? run = none then [client.blobRequest repository digest .head]
  else []

theorem learn_handed :
    (client.learn scope repository digest asks run).2.handed =
      run.handed ++ client.asked scope repository digest asks run := by
  cases asks with
  | false => exact (List.append_nil _).symm
  | true =>
      have hrun := (client.holds_verdict scope repository digest run).2
      show (client.holds scope repository digest run).2.handed = _
      rw [hrun, Run.withOutput_handed, Wire.send_handed]
      simp [asked]

theorem keeps_learn : (client.learn scope repository digest asks).Within Run.Keeps := by
  cases asks with
  | false => exact .pure false
  | true => exact client.keeps_holds scope repository digest

theorem learn_ne_overflow : (client.learn scope repository digest asks run).1 ≠ .overflow := by
  cases asks with
  | false => nofun
  | true => exact (client.holds_verdict scope repository digest run).1.not_overflow

theorem learn_eq_true_iff :
    (client.learn scope repository digest asks run).1 = .ok true ↔
      asks = true ∧ ∃ response,
        (client.wire.send scope (client.blobRequest repository digest .head) run).1 =
          .ok response ∧ response.status.code = 200 := by
  cases asks with
  | false => exact iff_of_false nofun nofun
  | true =>
      have hverdict := (client.holds_verdict scope repository digest run).1
      exact hverdict.eq_true_iff.trans (and_iff_right rfl).symm

theorem learn_of_ended {failure : Failure} (h : scope.endedIn? run = some failure) :
    asks = true → (client.learn scope repository digest asks run).1 = .failed failure := by
  rintro rfl
  have hverdict := (client.holds_verdict scope repository digest run).1
  rw [Wire.send_of_ended h] at hverdict
  refine (hverdict.eq_failed_iff failure).mpr (.inr ⟨rfl, fun url hf => ?_⟩)
  have hcancelled := Scope.isCancelled_of_ended h
  rw [hf] at hcancelled
  cases hcancelled

/-- The requests that a push hands over, and how it ends. -/
inductive PushCourse : List Request → Outcome Unit → Prop
  | there (found : (client.learn scope repository digest asks run).1 = .ok true) :
      PushCourse (client.asked scope repository digest asks run) (.ok ())
  | unknown (unknown : ∀ found, (client.learn scope repository digest asks run).1 ≠ .ok found) :
      PushCourse (client.asked scope repository digest asks run)
        (client.learn scope repository digest asks run).1.forget
  | absent {requests : List Request} {outcome : Outcome Unit} {last : Run}
      (missing : (client.learn scope repository digest asks run).1 = .ok false)
      (course : client.UploadCourse scope repository digest (Files.sent content)
        (client.learn scope repository digest asks run).2 requests outcome last) :
      PushCourse (client.asked scope repository digest asks run ++ requests) outcome

end Client

namespace Client.PushCourse

variable {client : Client} {scope : Scope} {repository : String} {digest : Digest} {asks : Bool}
  {content : Bytes} {run : Run} {requests : List Request} {outcome : Outcome Unit}

theorem asked_of_known {found : Bool}
    (h : (client.learn scope repository digest asks run).1 = .ok found) :
    client.asked scope repository digest asks run =
      if asks then [client.blobRequest repository digest .head] else [] := by
  unfold asked
  cases hopen : scope.endedIn? run with
  | none => simp
  | some failure =>
      cases asks with
      | false => rfl
      | true =>
          have hended := client.learn_of_ended scope repository digest true run hopen rfl
          rw [h] at hended
          cases hended

/-- The question, the opening request and one that uploads the content, in this
order and up to some point. -/
theorem sequence (h : client.PushCourse scope repository digest asks content run requests outcome) :
    ∃ put : Request, put.Uploads digest content ∧
      requests <+: (if asks then [client.blobRequest repository digest .head] else []) ++
        [client.openingRequest repository, put] := by
  have hasked : client.asked scope repository digest asks run <+:
      if asks then [client.blobRequest repository digest .head] else [] := by
    unfold asked
    cases asks with
    | false => exact List.prefix_rfl
    | true =>
        split
        · exact List.prefix_rfl
        · exact List.nil_prefix
  have hany := uploads_closing client.tokenHeader {} client.address.base digest content
  cases h with
  | there _ => exact ⟨_, hany, hasked.trans (List.prefix_append ..)⟩
  | unknown _ => exact ⟨_, hany, hasked.trans (List.prefix_append ..)⟩
  | absent hmissing hcourse =>
      rw [asked_of_known hmissing]
      rcases hcourse.sequence with rfl | rfl | ⟨put, rfl, -⟩
      · exact ⟨_, hany, (List.prefix_append_right_inj _).mpr List.nil_prefix⟩
      · exact ⟨_, hany, (List.prefix_append_right_inj _).mpr (List.prefix_append [_] [_])⟩
      · obtain ⟨response, location, -, -, -, rfl⟩ := (hcourse.closes_iff put).mp rfl
        exact ⟨_, uploads_closing .., List.prefix_rfl⟩

theorem of_there (h : client.PushCourse scope repository digest asks content run requests outcome)
    (hfound : (client.learn scope repository digest asks run).1 = .ok true) :
    outcome = .ok () ∧ requests = [client.blobRequest repository digest .head] := by
  have hasks := ((client.learn_eq_true_iff scope repository digest asks run).mp hfound).1
  cases h with
  | there _ =>
      rw [asked_of_known hfound, hasks]
      exact ⟨rfl, rfl⟩
  | unknown hunknown => exact absurd hfound (hunknown _)
  | absent hmissing _ =>
      rw [hfound] at hmissing
      cases hmissing

theorem of_failed {failure : Failure}
    (h : client.PushCourse scope repository digest asks content run requests outcome)
    (hfailed : (client.learn scope repository digest asks run).1 = .failed failure) :
    outcome = .failed failure ∧ requests = client.asked scope repository digest asks run := by
  cases h with
  | there hfound =>
      rw [hfailed] at hfound
      cases hfound
  | unknown _ =>
      rw [hfailed]
      exact ⟨rfl, rfl⟩
  | absent hmissing _ =>
      rw [hfailed] at hmissing
      cases hmissing

theorem of_absent (h : client.PushCourse scope repository digest asks content run requests outcome)
    (hmissing : (client.learn scope repository digest asks run).1 = .ok false) :
    (client.openingRequest repository ∈ requests ↔
      scope.endedIn? (client.learn scope repository digest asks run).2 = none) ∧
    ∀ failure, scope.endedIn? (client.learn scope repository digest asks run).2 = some failure →
      outcome = .failed failure ∧ requests = client.asked scope repository digest asks run := by
  cases h with
  | there hfound =>
      rw [hmissing] at hfound
      cases hfound
  | unknown hunknown => exact absurd hmissing (hunknown _)
  | @absent uploads _ _ _ hcourse =>
      have hother : client.openingRequest repository ∉
          client.asked scope repository digest asks run := by
        intro hm
        unfold asked at hm
        split at hm
        · have hmethod := congrArg Request.method (List.mem_singleton.mp hm)
          cases hmethod
        · cases hm
      constructor
      · rw [List.mem_append, or_iff_right hother]
        constructor
        · intro hm
          by_contra hended
          rw [hcourse.nil_iff.mpr hended] at hm
          cases hm
        · intro hopen
          rcases hcourse.sequence with hnil | rfl | ⟨put, rfl, -⟩
          · exact absurd hopen (hcourse.nil_iff.mp hnil)
          · exact List.mem_cons_self
          · exact List.mem_cons_self
      · intro failure hended
        cases hcourse with
        | notBegun hfirst =>
            rw [hended] at hfirst
            cases hfirst
            exact ⟨rfl, List.append_nil _⟩
        | unopened hbegun | refused hbegun | astray hbegun | overtaken hbegun | closing hbegun =>
            rw [hbegun] at hended
            cases hended

/-- A push succeeds exactly when the blob is reported as present, or the request
that uploads it is answered. -/
theorem succeeds_iff
    (h : client.PushCourse scope repository digest asks content run requests outcome) :
    outcome = .ok () ↔
      (client.learn scope repository digest asks run).1 = .ok true ∨
      ∃ put answer, requests = client.asked scope repository digest asks run ++
          [client.openingRequest repository, put] ∧
        (client.closed scope repository
          (client.learn scope repository digest asks run).2 put).1 = .ok answer := by
  have hlonger {put : Request} : client.asked scope repository digest asks run ≠
      client.asked scope repository digest asks run ++ [client.openingRequest repository, put] := by
    intro heq
    have hlength := congrArg List.length heq
    simp at hlength
  cases h with
  | there hfound => exact iff_of_true rfl (.inl hfound)
  | unknown hunknown =>
      refine iff_of_false (fun hok => ?_) ?_
      · obtain ⟨found, hfound⟩ := Outcome.forget_eq_ok.mp hok
        exact hunknown found hfound
      · rintro (hfound | ⟨put, answer, hrequests, -⟩)
        · exact hunknown true hfound
        · exact hlonger hrequests
  | @absent uploads _ _ hmissing hcourse =>
      rw [hcourse.succeeds_iff]
      constructor
      · rintro ⟨put, answer, rfl, hanswer⟩
        exact .inr ⟨put, answer, rfl, hanswer⟩
      · rintro (hfound | ⟨put, answer, hrequests, hanswer⟩)
        · rw [hmissing] at hfound
          cases hfound
        · exact ⟨put, answer, List.append_cancel_left hrequests, hanswer⟩

theorem not_overflow
    (h : client.PushCourse scope repository digest asks content run requests outcome) :
    outcome ≠ .overflow := by
  cases h with
  | there _ => nofun
  | unknown _ =>
      intro hover
      exact client.learn_ne_overflow scope repository digest asks run
        (Outcome.forget_eq_overflow.mp hover)
  | absent _ hcourse => exact hcourse.not_overflow

end Client.PushCourse

/-! ## The command -/

namespace CommandLine

variable {line : CommandLine} {client : Client} {scope : Scope} {run : Run}
  {repository path : String} {declared : Option String} {asks : Bool} {digest : Digest}
  {content : Bytes}

theorem push_eq (line : CommandLine) (client : Client) (scope : Scope)
    (repository path : String) (declared : Option String) (asks : Bool) :
    line.push client scope repository path declared asks =
      (Act.state >>= fun run =>
        .ofExcept (digestToPush run.files path declared) >>= fun digest =>
        .ofExcept ((run.files.open? path).mapError .io) >>= fun entry =>
        client.learn scope repository digest asks >>= fun found =>
        if found then
          .note line.logger ⟨.info, "Blob " ++ digest.short ++ " already exists, skipping"⟩
        else
          client.upload scope repository digest (.ofReads entry.reads) >>= fun _ =>
          .note line.logger
            ⟨.success, "Pushed " ++ path ++ " (" ++ Size.render entry.size ++ ") as " ++
              digest.text⟩) := by
  cases asks with
  | false => rfl
  | true => rfl

/-- Once the file has been read and the digest is known, there is a question and
perhaps an upload, and a note of either. -/
theorem push_run (hdigest : digestToPush run.files path declared = .ok digest)
    (hfile : run.files.open? path = .ok (.file content)) :
    line.push client scope repository path declared asks run =
      (client.learn scope repository digest asks >>= fun found =>
        if found then
          .note line.logger ⟨.info, "Blob " ++ digest.short ++ " already exists, skipping"⟩
        else
          client.upload scope repository digest (Files.sent content) >>= fun _ =>
          .note line.logger
            ⟨.success, "Pushed " ++ path ++ " (" ++ Size.render content.length ++ ") as " ++
              digest.text⟩)
        run := by
  rw [push_eq]
  show (Act.ofExcept (digestToPush run.files path declared) >>= _) run = _
  rw [hdigest]
  show (Act.ofExcept ((run.files.open? path).mapError Failure.io) >>= _) run = _
  rw [hfile]
  rfl

theorem push_course (line : CommandLine) (client : Client) (scope : Scope)
    (repository : String) (asks : Bool) (run : Run)
    (hdigest : digestToPush run.files path declared = .ok digest)
    (hfile : run.files.open? path = .ok (.file content)) :
    let pushed := line.push client scope repository path declared asks run
    ∃ requests, pushed.2.handed = run.handed ++ requests ∧
      client.PushCourse scope repository digest asks content run requests pushed.1 := by
  intro pushed
  have hasked := client.learn_handed scope repository digest asks run
  have hpushed : pushed = _ := push_run hdigest hfile
  by_cases hknown : ∃ found, (client.learn scope repository digest asks run).1 = .ok found
  · obtain ⟨found, hfound⟩ := hknown
    rw [Act.bind_ok (Prod.ext hfound rfl)] at hpushed
    rw [hpushed]
    cases found with
    | true => exact ⟨_, hasked, .there hfound⟩
    | false =>
        rw [if_neg Bool.false_ne_true]
        obtain ⟨requests, last, hmore, hcourse⟩ := client.upload_handed scope repository digest
          (Files.sent content) (client.learn scope repository digest asks run).2
        obtain ⟨shown, hnoted, -⟩ := Act.noted_run
          (client.upload scope repository digest (Files.sent content)) line.logger
          (fun _ => ⟨.success, "Pushed " ++ path ++ " (" ++ Size.render content.length ++ ") as " ++
            digest.text⟩) (client.learn scope repository digest asks run).2
        rw [hnoted, Outcome.forget_self]
        refine ⟨_, ?_, .absent hfound hcourse⟩
        rw [Run.withOutput_handed, hmore, hasked, List.append_assoc]
  · have hunknown := not_exists.mp hknown
    rw [hpushed, Act.bind_of_not_ok hunknown]
    exact ⟨_, hasked, .unknown hunknown⟩

/-- A push of a file, from the command line on.

It sends the question for the blob, if it is to ask, then the request that opens
an upload, then one with the octets of the file under the declared digest or
their own, and stops somewhere in this sequence: behind the question, if that is
answered with 200 or the answer leaves it open; before the upload, if the scope
has ended by then.  It succeeds if the blob is there, or if what uploads it is
answered, and not otherwise. -/
theorem push_uploads_file {environment : Environment} {reaches : Url → Bool} (scope : Scope)
    {settings : Settings} (hcommand : line.command = .push repository path declared asks)
    (hset : line.settings environment = .ok settings)
    (hbuilt : Client.ofSettings settings reaches (some line.logger) = .ok client)
    (hfits : settings.FitsClock run.now)
    (hfile : run.files.open? path = .ok (.file content))
    (hdeclared : ∀ text, declared = some text → ∃ digest, Digest.parse text = .ok digest) :
    let ended := line.run environment reaches scope run
    let inner := settings.ownScope scope run
    ∃ digest requests,
      digest.text = declared.getD
        ("sha256:" ++ String.ofList (Bytes.toHex (Sha256.hash content).toBytes)) ∧
      ended.2.handed = run.handed ++ requests ∧
      let head := client.blobRequest repository digest .head
      let post := client.openingRequest repository
      let found := client.learn inner repository digest asks run.begun
      (∃ put : Request, put.Uploads digest content ∧
        requests <+: (if asks then [head] else []) ++ [post, put]) ∧
      (found.1 = .ok true ↔ asks = true ∧ ∃ response,
        (client.wire.send inner head run.begun).1 = .ok response ∧
          response.status.code = 200) ∧
      (found.1 = .ok true → ended.1 = .ok () ∧ requests = [head]) ∧
      (∀ failure, found.1 = .failed failure →
        ended.1 = .failed failure ∧ requests <+: [head]) ∧
      (found.1 = .ok false →
        (post ∈ requests ↔ inner.endedIn? found.2 = none) ∧
        ∀ failure, inner.endedIn? found.2 = some failure →
          ended.1 = .failed failure ∧ requests <+: [head]) ∧
      (ended.1 = .ok () ↔ found.1 = .ok true ∨ ∃ put answer,
        requests = client.asked inner repository digest asks run.begun ++ [post, put] ∧
        (client.closed inner repository found.2 put).1 = .ok answer) ∧
      ended.1 ≠ .overflow := by
  intro ended inner
  obtain ⟨digest, hdigest, htext⟩ := digestToPush_ok hfile hdeclared
  have hbegins : line.Begins environment reaches scope run (.ok (client, inner)) run.begun :=
    .ready hset hbuilt hfits
  obtain ⟨output, -, hended⟩ := hbegins.carried
  have hexecute : line.execute client inner =
      line.push client inner repository path declared asks := by
    unfold execute
    rw [hcommand]
  obtain ⟨requests, hhanded, hcourse⟩ :=
    line.push_course client inner repository asks run.begun hdigest hfile
  have houtcome : ended.1 =
      (line.push client inner repository path declared asks run.begun).1 := by
    rw [show ended = _ from hended, hexecute]
  have hasked : client.asked inner repository digest asks run.begun <+:
      [client.blobRequest repository digest .head] := by
    unfold Client.asked
    split
    · exact List.prefix_rfl
    · exact List.nil_prefix
  have hall : ended.2.handed = run.handed ++ requests := by
    rw [show ended = _ from hended, hexecute]
    exact hhanded
  rw [← houtcome] at hcourse
  clear_value ended
  refine ⟨digest, requests, htext, hall, hcourse.sequence,
    client.learn_eq_true_iff inner repository digest asks run.begun, hcourse.of_there, ?_, ?_,
    hcourse.succeeds_iff, hcourse.not_overflow⟩
  · intro failure hfailed
    obtain ⟨houtcome, hrequests⟩ := hcourse.of_failed hfailed
    exact ⟨houtcome, hrequests ▸ hasked⟩
  · intro hmissing
    obtain ⟨hbegins, hstopped⟩ := hcourse.of_absent hmissing
    refine ⟨hbegins, fun failure hscope => ?_⟩
    obtain ⟨houtcome, hrequests⟩ := hstopped failure hscope
    exact ⟨houtcome, hrequests ▸ hasked⟩

/-- A file of three octets, declared as something else, with the question first. -/
theorem push_uploads_file_declared :
    let line : CommandLine :=
      { registry := some "http://h", command := .push "r" "f" (some "md5:abc") true }
    let client : Client := .ofHost line.logger
    let run : Run := { files := { entries := [({ names := ["f"] }, .file [1, 2, 3])] } }
    let scope : Scope := { token := [] }
    ∃ digest put, digest.text = "md5:abc" ∧ put.Uploads digest [1, 2, 3] ∧
      (line.run [] (fun _ => true) scope run).2.handed <+:
        [client.blobRequest "r" digest .head, client.openingRequest "r", put] ∧
      (line.run [] (fun _ => true) scope run).1 ≠ .overflow := by
  intro line client run scope
  have hcommand : line.command = .push "r" "f" (some "md5:abc") true := rfl
  have hset : line.settings [] = .ok (Settings.new "http://h") := rfl
  have hbuilt := Client.ofSettings_host line.logger
  have hfits : (Settings.new "http://h").FitsClock run.now := Settings.fitsClock_new "http://h"
  have hfile : run.files.open? "f" = .ok (.file [1, 2, 3]) :=
    Except.eq_ok_of_toOption (by decide +kernel)
  have hdeclared : ∀ text, some "md5:abc" = some text →
      ∃ digest, Digest.parse text = .ok digest := by
    rintro text ⟨⟩
    exact ⟨⟨"md5".toList, "abc".toList, by decide, by decide, by decide, by decide⟩,
      Except.eq_ok_of_toOption (by decide +kernel)⟩
  obtain ⟨digest, requests, htext, hhanded, ⟨put, hput, hsequence⟩, -, -, -, -, -, hup⟩ :=
    push_uploads_file scope hcommand hset hbuilt hfits hfile hdeclared
  have hfirst : run.handed = [] := rfl
  rw [hfirst, List.nil_append] at hhanded
  rw [if_pos rfl, ← hhanded] at hsequence
  exact ⟨digest, put, htext, hput, hsequence, hup⟩

end CommandLine

end OciBlobs
