/-
# `Proofs.Blob.Upload` — the course of an upload

An upload hands over at most two requests: the one that opens a session, and
then, if the answer opens one and the scope goes on, the one that closes it
(`UploadCourse`).

    notBegun    the scope had ended                         []
    unopened    the opening request was not answered        [post]
    refused     its answer does not say success             [post]
    astray      its answer names no place                   [post]
    overtaken   the scope ended together with the answer    [post]
    closing     the closing request was sent                [post, put]
-/
import OciBlobs.Proofs.Blob.Bare

namespace OciBlobs.Client

open Http

section
variable (client : Client) (scope : Scope) (repository : String) (digest : Digest)
  (content : Content) (run : Run)

/-- How the opening request of an upload ends. -/
def opened : Outcome Response × Run :=
  client.wire.send scope (client.openingRequest repository) run

/-- How a closing request ends, sent in the state that the opening one left. -/
def closed (request : Request) : Outcome Response × Run :=
  client.wire.send scope request (client.opened scope repository run).2

/-- The requests that an upload hands over, how it ends, and the state that
its last request left. -/
inductive UploadCourse : List Request → Outcome Unit → Run → Prop
  | notBegun {failure : Failure} (ended : scope.endedIn? run = some failure) :
      UploadCourse [] (.failed failure) run
  | unopened (begun : scope.endedIn? run = none)
      (unanswered : ∀ response, (client.opened scope repository run).1 ≠ .ok response) :
      UploadCourse [client.openingRequest repository]
        (client.opened scope repository run).1.forget (client.opened scope repository run).2
  | refused {response : Response} (begun : scope.endedIn? run = none)
      (answered : (client.opened scope repository run).1 = .ok response)
      (status : response.status.isSuccess = false) :
      UploadCourse [client.openingRequest repository]
        (.failed (.status response.status response.url.text))
        (client.opened scope repository run).2
  | astray {response : Response} {cause : String} (begun : scope.endedIn? run = none)
      (answered : (client.opened scope repository run).1 = .ok response)
      (status : response.status.isSuccess = true)
      (nowhere : UploadSession.locationOf response = .error (.malformed cause)) :
      UploadCourse [client.openingRequest repository] (.failed (.malformed cause))
        (client.opened scope repository run).2
  | overtaken {response : Response} {location : Url} {failure : Failure}
      (begun : scope.endedIn? run = none)
      (answered : (client.opened scope repository run).1 = .ok response)
      (leads : response.LeadsTo location)
      (ended : scope.endedIn? (client.opened scope repository run).2 = some failure) :
      UploadCourse [client.openingRequest repository] (.failed failure)
        (client.opened scope repository run).2
  | closing {response : Response} {location : Url} {put : Request}
      (begun : scope.endedIn? run = none)
      (answered : (client.opened scope repository run).1 = .ok response)
      (leads : response.LeadsTo location)
      (goesOn : scope.endedIn? (client.opened scope repository run).2 = none)
      (request : put =
        UploadSession.closing client.tokenHeader response.toAnswer location digest content) :
      UploadCourse [client.openingRequest repository, put]
        (client.closed scope repository run put).1.forget
        (client.closed scope repository run put).2

end

variable {client : Client} {scope : Scope} {repository : String} {digest : Digest}
  {content : Content} {run : Run} {response : Response}

/-! ## One course or another -/

theorem bareUpload_of_unopened
    (h : ∀ response, (client.opened scope repository run).1 ≠ .ok response) :
    client.bareUpload scope repository digest content run =
      ((client.opened scope repository run).1.forget, (client.opened scope repository run).2) := by
  unfold bareUpload
  rw [Act.bind_run]
  unfold opened at h ⊢
  generalize client.wire.send scope (client.openingRequest repository) run = ended at h ⊢
  rcases ended with ⟨response | _ | _ | _, _⟩
  · exact absurd rfl (h response)
  all_goals rfl

theorem bareUpload_of_answered (h : (client.opened scope repository run).1 = .ok response) :
    client.bareUpload scope repository digest content run =
      (Act.ofExcept (client.sessionOf response) >>= fun session =>
        Act.ofExcept (session.closingRequest digest content) >>= fun request =>
        client.wire.send scope request >>= fun _ => pure ())
      (client.opened scope repository run).2 :=
  Act.bind_ok (Prod.ext h rfl) _

theorem bareUpload_of_leadsTo {location : Url} {put : Request}
    (h : (client.opened scope repository run).1 = .ok response) (hl : response.LeadsTo location)
    (hput : put =
      UploadSession.closing client.tokenHeader response.toAnswer location digest content) :
    client.bareUpload scope repository digest content run =
      ((client.closed scope repository run put).1.forget,
        (client.closed scope repository run put).2) := by
  subst hput
  have hs : client.sessionOf response =
      .ok ⟨location, UploadSession.tokenOf client.tokenHeader response.toAnswer⟩ :=
    sessionOf_eq_ok.mpr ⟨hl, rfl⟩
  rw [bareUpload_of_answered h, hs]
  show (Act.ofExcept (UploadSession.closingRequest _ _ _) >>= _) _ = _
  rw [closingRequest_of_sessionOf hs]
  exact Act.forget_run _ _

theorem upload_course (client : Client) (scope : Scope) (repository : String) (digest : Digest)
    (content : Content) (run : Run) :
    ∃ requests last, (client.upload scope repository digest content run).2 =
        last.withOutput (client.upload scope repository digest content run).2.output ∧
      client.UploadCourse scope repository digest content run requests
        (client.upload scope repository digest content run).1 last := by
  obtain ⟨output, hrun⟩ := client.annotates_upload scope repository digest content run
  suffices h : ∃ requests, client.UploadCourse scope repository digest content run requests
      (client.bareUpload scope repository digest content run).1
      (client.bareUpload scope repository digest content run).2 by
    obtain ⟨requests, hc⟩ := h
    exact ⟨requests, _, by rw [hrun]; rfl, by rw [hrun]; exact hc⟩
  cases hb : scope.endedIn? run with
  | some failure =>
      have hbare : client.bareUpload scope repository digest content run =
          (.failed failure, run) := Act.bind_failed (Wire.send_of_ended hb) _
      rw [hbare]
      exact ⟨_, .notBegun hb⟩
  | none =>
      by_cases ha : ∃ response, (client.opened scope repository run).1 = .ok response
      · obtain ⟨response, ha⟩ := ha
        cases hs : client.sessionOf response with
        | error failure =>
            have hbare : client.bareUpload scope repository digest content run =
                (.failed failure, (client.opened scope repository run).2) := by
              rw [bareUpload_of_answered ha, hs]
              rfl
            rw [hbare]
            rcases sessionOf_eq_error hs with ⟨hstatus, rfl⟩ | ⟨hstatus, hlocation⟩
            · exact ⟨_, .refused hb ha hstatus⟩
            · obtain ⟨cause, rfl⟩ := UploadSession.locationOf_eq_error hlocation
              exact ⟨_, .astray hb ha hstatus hlocation⟩
        | ok session =>
            obtain ⟨hl, -⟩ := sessionOf_eq_ok.mp hs
            rw [bareUpload_of_leadsTo ha hl rfl]
            cases hg : scope.endedIn? (client.opened scope repository run).2 with
            | none => exact ⟨_, .closing hb ha hl hg rfl⟩
            | some failure =>
                have hclosed : client.closed scope repository run (UploadSession.closing
                    client.tokenHeader response.toAnswer session.location digest content) =
                    (.failed failure, (client.opened scope repository run).2) :=
                  Wire.send_of_ended hg
                rw [hclosed]
                exact ⟨_, .overtaken hb ha hl hg⟩
      · have hn := not_exists.mp ha
        rw [bareUpload_of_unopened hn]
        exact ⟨_, .unopened hb hn⟩

namespace UploadCourse

variable {requests : List Request} {outcome : Outcome Unit} {last : Run}

theorem handed (h : client.UploadCourse scope repository digest content run requests outcome last) :
    last.handed = run.handed ++ requests := by
  have hopened (hb : scope.endedIn? run = none) : (client.opened scope repository run).2.handed =
      run.handed ++ [client.openingRequest repository] := by
    rw [opened, Wire.send_handed, if_pos hb]
  cases h with
  | notBegun _ => simp
  | unopened hb _ => exact hopened hb
  | refused hb _ _ => exact hopened hb
  | astray hb _ _ _ => exact hopened hb
  | overtaken hb _ _ _ => exact hopened hb
  | closing hb _ _ hg _ =>
      rw [closed, Wire.send_handed, if_pos hg, hopened hb, List.append_assoc]
      rfl

/-- Over a direct wire, what was handed over came through as it is, unless its
content failed before it was answered. -/
theorem sent {spent : Failure} (hw : client.wire = .direct spent)
    (h : client.UploadCourse scope repository digest content run requests outcome last) :
    last.sent = run.sent ++
      requests.filter (·.comesThrough (client.opened scope repository run).2.replies) := by
  have hopened (hb : scope.endedIn? run = none) : (client.opened scope repository run).2.sent =
      run.sent ++ [client.openingRequest repository] := by
    rw [opened, Wire.send_sent_direct hw, if_pos hb]
    rfl
  cases h with
  | notBegun _ => simp
  | unopened hb _ => exact hopened hb
  | refused hb _ _ => exact hopened hb
  | astray hb _ _ _ => exact hopened hb
  | overtaken hb _ _ _ => exact hopened hb
  | closing hb _ _ hg _ =>
      rw [closed, Wire.send_sent_direct hw, if_pos hg, hopened hb, List.append_assoc]
      rfl

/-- The opening request first, then the closing one, neither of them twice. -/
theorem sequence
    (h : client.UploadCourse scope repository digest content run requests outcome last) :
    requests = [] ∨ requests = [client.openingRequest repository] ∨
      ∃ put, requests = [client.openingRequest repository, put] ∧ put.method = .put := by
  cases h with
  | notBegun _ => exact .inl rfl
  | closing _ _ _ _ hput => exact .inr (.inr ⟨_, rfl, hput ▸ rfl⟩)
  | _ => exact .inr (.inl rfl)

theorem nil_iff
    (h : client.UploadCourse scope repository digest content run requests outcome last) :
    requests = [] ↔ scope.endedIn? run ≠ none := by
  cases h with
  | notBegun he => simp [he]
  | _ => simp_all

/-- The closing request is handed over exactly when the answer to the opening
one leads to a place and the scope has not ended by then. -/
theorem closes_iff
    (h : client.UploadCourse scope repository digest content run requests outcome last)
    (put : Request) :
    requests = [client.openingRequest repository, put] ↔
      ∃ response location, (client.opened scope repository run).1 = .ok response ∧
        response.LeadsTo location ∧
        scope.endedIn? (client.opened scope repository run).2 = none ∧
        put = UploadSession.closing client.tokenHeader response.toAnswer location digest
          content := by
  constructor
  · rintro rfl
    cases h with
    | closing _ ha hl hg hput => exact ⟨_, _, ha, hl, hg, hput⟩
  · rintro ⟨response, location, ha, hl, hg, hput⟩
    cases h with
    | notBegun he =>
        rw [opened, Wire.send_of_ended he] at ha
        cases ha
    | unopened _ hn => exact absurd ha (hn _)
    | refused _ ha' hs =>
        obtain rfl := Outcome.ok.inj (ha.symm.trans ha')
        exact absurd hl.1 (by simp [hs])
    | astray _ ha' _ hn =>
        obtain rfl := Outcome.ok.inj (ha.symm.trans ha')
        exact absurd hl (UploadSession.not_leadsTo hn)
    | overtaken _ _ _ he =>
        rw [hg] at he
        cases he
    | closing _ ha' hl' _ hput' =>
        obtain rfl := Outcome.ok.inj (ha.symm.trans ha')
        obtain rfl := UploadSession.leadsTo_unique hl hl'
        rw [hput, hput']

/-- An upload that comes to its closing request ends as that request does. -/
theorem outcome_eq {put : Request}
    (h : client.UploadCourse scope repository digest content run requests outcome last)
    (hput : requests = [client.openingRequest repository, put]) :
    outcome = (client.closed scope repository run put).1.forget := by
  cases h with
  | closing =>
      cases hput
      rfl
  | _ => cases hput

theorem succeeds_iff
    (h : client.UploadCourse scope repository digest content run requests outcome last) :
    outcome = .ok () ↔ ∃ put answer, requests = [client.openingRequest repository, put] ∧
      (client.closed scope repository run put).1 = .ok answer := by
  constructor
  · intro hok
    cases h with
    | closing =>
        obtain ⟨answer, ha⟩ := Outcome.forget_eq_ok.mp hok
        exact ⟨_, answer, rfl, ha⟩
    | unopened _ hn =>
        obtain ⟨response, ha⟩ := Outcome.forget_eq_ok.mp hok
        exact absurd ha (hn response)
    | _ => cases hok
  · rintro ⟨put, answer, hput, ha⟩
    exact (h.outcome_eq hput).trans (Outcome.forget_eq_ok.mpr ⟨answer, ha⟩)

theorem not_overflow
    (h : client.UploadCourse scope repository digest content run requests outcome last) :
    outcome ≠ .overflow := by
  intro ho
  cases h with
  | unopened => exact client.wire.staysUp_send _ _ _ (Outcome.forget_eq_overflow.mp ho)
  | closing => exact client.wire.staysUp_send _ _ _ (Outcome.forget_eq_overflow.mp ho)
  | _ => cases ho

/-- An upload fails as its scope has ended, with the wire's own failure of one
of its requests, or because the opening request was answered in vain. -/
theorem failed {failure : Failure}
    (h : client.UploadCourse scope repository digest content run requests (.failed failure) last) :
    scope.endedIn? last = some failure ∨
    client.wire.OwnFailure (client.openingRequest repository) run.replies failure ∨
    (∃ put, requests = [client.openingRequest repository, put] ∧
      client.wire.OwnFailure put (client.opened scope repository run).2.replies failure) ∨
    ∃ response, (client.opened scope repository run).1 = .ok response ∧
      ((response.status.isSuccess = false ∧
          failure = .status response.status response.url.text) ∨
        (response.status.isSuccess = true ∧ (∀ location, ¬response.LeadsTo location) ∧
          ∃ cause, failure = .malformed cause)) := by
  generalize ho : Outcome.failed failure = outcome at h
  cases h with
  | notBegun he =>
      cases ho
      exact .inl he
  | unopened _ _ =>
      have hf := Outcome.forget_eq_failed.mp ho.symm
      rcases Wire.send_failed (Prod.ext hf rfl) with he | hown
      · exact .inl he
      · exact .inr (.inl hown)
  | refused _ ha hs =>
      cases ho
      exact .inr (.inr (.inr ⟨_, ha, .inl ⟨hs, rfl⟩⟩))
  | astray _ ha hs hn =>
      cases ho
      refine .inr (.inr (.inr ⟨_, ha, .inr ⟨hs, fun location => ?_, _, rfl⟩⟩))
      exact UploadSession.not_leadsTo hn
  | overtaken _ _ _ he =>
      cases ho
      exact .inl he
  | closing =>
      have hf := Outcome.forget_eq_failed.mp ho.symm
      rcases Wire.send_failed (Prod.ext hf rfl) with he | hown
      · exact .inl he
      · exact .inr (.inr (.inl ⟨_, rfl, hown⟩))

end UploadCourse

/-- An upload, whatever the wire, the scope and the far side do.  It hands over
nothing, or the opening request, which has no content, or this and the closing
request.  The closing request is handed over exactly when the answer to the
opening one leads to a place and the scope has not ended by then; the upload
succeeds exactly when that request is answered.  Any other course ends with the
failure of the step at which it ends. -/
theorem upload_opens_then_closes (client : Client) (scope : Scope) (repository : String)
    (digest : Digest) (content : Content) (run : Run) :
    let post := client.openingRequest repository
    let opened := client.opened scope repository run
    let ended := client.upload scope repository digest content run
    (post.method = .post ∧ post.url = client.address.uploads repository ∧
      post.body = some { pieces := [[]] }) ∧
    ∃ requests last,
      ended.2 = last.withOutput ended.2.output ∧
      ended.2.handed = run.handed ++ requests ∧
      (∀ spent, client.wire = .direct spent → ended.2.sent = run.sent ++
        requests.filter (·.comesThrough opened.2.replies)) ∧
      client.UploadCourse scope repository digest content run requests ended.1 last ∧
      (requests = [] ∨ requests = [post] ∨ ∃ put, requests = [post, put] ∧ put.method = .put) ∧
      (∀ put, requests = [post, put] ↔ ∃ response location, opened.1 = .ok response ∧
        response.LeadsTo location ∧ scope.endedIn? opened.2 = none ∧
        put = UploadSession.closing client.tokenHeader response.toAnswer location digest
          content) ∧
      (ended.1 = .ok () ↔ ∃ put answer, requests = [post, put] ∧
        (client.closed scope repository run put).1 = .ok answer) ∧
      ended.1 ≠ .overflow ∧
      ∀ failure, ended.1 = .failed failure →
        scope.endedIn? ended.2 = some failure ∨
        client.wire.OwnFailure post run.replies failure ∨
        (∃ put, requests = [post, put] ∧ client.wire.OwnFailure put opened.2.replies failure) ∨
        ∃ response, opened.1 = .ok response ∧
          ((response.status.isSuccess = false ∧
              failure = .status response.status response.url.text) ∨
            (response.status.isSuccess = true ∧ (∀ location, ¬response.LeadsTo location) ∧
              ∃ cause, failure = .malformed cause)) := by
  intro post opened ended
  obtain ⟨requests, last, hlast, hc⟩ := client.upload_course scope repository digest content run
  refine ⟨⟨rfl, rfl, rfl⟩, requests, last, hlast, ?_, ?_, hc, hc.sequence, hc.closes_iff,
    hc.succeeds_iff, hc.not_overflow, ?_⟩
  · rw [hlast]
    exact hc.handed
  · intro spent hw
    have hs := hc.sent hw
    rw [hlast]
    exact hs
  · intro failure hf
    rw [show ended.1 = _ from hf] at hc
    rcases hc.failed with he | hfailed
    · rw [hlast]
      exact .inl he
    · exact .inr hfailed

end OciBlobs.Client
