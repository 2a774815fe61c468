/-
# `Proofs.Blob.Presence` — what is known of a blob

Whether a blob is there is one request, and what is told of it follows from
how that request ended (`Verdict`):

    present    200                            it is there
    elsewise   another success                it is not reported
    absent     404                            it is not there
    missing    the wire failed with a 404     it is not there
    refused    any other status               a failure
    failed     any other failure              the same failure
    endless    nothing ever came              nothing is ever told

Only the first four are answers.  A scope that has ended and a wire that failed
leave the question open, and so do all the other statuses.
-/
import OciBlobs.Proofs.Blob.Bare

namespace OciBlobs.Client

open Http

/-- What is told of a blob, by how the request for its head ended. -/
inductive Verdict : Outcome Response → Outcome Bool → Prop
  | present {response : Response} (status : response.status.code = 200) :
      Verdict (.ok response) (.ok true)
  | elsewise {response : Response} (status : response.status.isSuccess = true)
      (other : response.status.code ≠ 200) : Verdict (.ok response) (.ok false)
  | absent {response : Response} (status : response.status.code = 404) :
      Verdict (.ok response) (.ok false)
  | refused {response : Response} (status : response.status.isSuccess = false)
      (other : response.status.code ≠ 404) :
      Verdict (.ok response) (.failed (.status response.status response.url.text))
  | missing {url : String} : Verdict (.failed (.status .notFound url)) (.ok false)
  | failed {failure : Failure} (other : ∀ url, failure ≠ .status .notFound url) :
      Verdict (.failed failure) (.failed failure)
  | endless : Verdict .stuck .stuck

theorem isNotFound_iff {failure : Failure} :
    failure.isNotFound = true ↔ ∃ url, failure = .status .notFound url := by
  unfold Failure.isNotFound
  cases failure with
  | status code url => simp [Failure.status?]
  | _ => simp [Failure.status?]

theorem status_eq_iff {status : Status} {code : Nat} : status = ⟨code⟩ ↔ status.code = code := by
  cases status
  simp

theorem isNotFound_eq_false {failure : Failure} (h : ∀ url, failure ≠ .status .notFound url) :
    failure.isNotFound = false := by
  rw [Bool.eq_false_iff, ne_eq, isNotFound_iff]
  rintro ⟨url, hf⟩
  exact h url hf

/-! ## Every verdict is one of these -/

theorem verdict_of_answer (response : Response) :
    Verdict (.ok response) (.ofExcept (presenceOf response.success)) := by
  unfold Response.success
  cases hs : response.status.isSuccess with
  | true =>
      rw [if_pos rfl]
      by_cases hok : response.status.code = 200
      · have hfound : (response.status == Status.ok) = true :=
          beq_iff_eq.mpr (status_eq_iff.mpr hok)
        simp only [presenceOf, hfound]
        exact .present hok
      · have hfound : (response.status == Status.ok) = false :=
          beq_eq_false_iff_ne.mpr fun h => hok (status_eq_iff.mp h)
        simp only [presenceOf, hfound]
        exact .elsewise hs hok
  | false =>
      rw [if_neg (by decide)]
      by_cases hmissing : response.status.code = 404
      · have hnot : (Failure.status response.status response.url.text).isNotFound = true :=
          isNotFound_iff.mpr ⟨_, by rw [status_eq_iff.mpr hmissing]; rfl⟩
        simp only [presenceOf, hnot, if_true]
        exact .absent hmissing
      · have hnot : (Failure.status response.status response.url.text).isNotFound = false := by
          refine isNotFound_eq_false fun url h => ?_
          injection h with hcode _
          exact hmissing (status_eq_iff.mp hcode)
        simp only [presenceOf, hnot]
        exact .refused hs hmissing

theorem verdict_of_failure (failure : Failure) :
    Verdict (.failed failure) (.ofExcept (presenceOf (.error failure))) := by
  by_cases hmissing : ∃ url, failure = .status .notFound url
  · obtain ⟨url, rfl⟩ := hmissing
    exact .missing
  · have hother := not_exists.mp hmissing
    simp only [presenceOf, isNotFound_eq_false hother]
    exact .failed hother

theorem verdict_of_send (client : Client) (scope : Scope) (request : Request) (run : Run) :
    let asked := client.wire.send scope request run
    let bare := ((client.wire.sendForSuccess scope request).attempt >>= fun result =>
      Act.ofExcept (presenceOf result)) run
    Verdict asked.1 bare.1 ∧ bare.2 = asked.2 := by
  intro asked bare
  have hattempt := Act.attempt_run (client.wire.sendForSuccess scope request) run
  unfold Wire.sendForSuccess at hattempt
  cases ha : asked with | mk outcome after => ?_
  cases outcome with
  | ok response =>
      rw [Act.bind_ok ha, Act.ofExcept_run] at hattempt
      have hresult : (client.wire.sendForSuccess scope request).attempt run =
          (.ok response.success, after) := by
        refine hattempt.trans ?_
        cases response.success <;> rfl
      have hbare : bare = (.ofExcept (presenceOf response.success), after) := by
        rw [← Act.ofExcept_run]
        exact Act.bind_ok hresult _
      rw [hbare]
      exact ⟨verdict_of_answer response, rfl⟩
  | failed failure =>
      rw [Act.bind_failed ha] at hattempt
      have hbare : bare = (.ofExcept (presenceOf (.error failure)), after) := by
        rw [← Act.ofExcept_run]
        exact Act.bind_ok hattempt _
      rw [hbare]
      exact ⟨verdict_of_failure failure, rfl⟩
  | stuck =>
      rw [Act.bind_stuck ha] at hattempt
      have hbare : bare = (.stuck, after) := Act.bind_stuck hattempt _
      rw [hbare]
      exact ⟨.endless, rfl⟩
  | overflow => exact absurd (congrArg Prod.fst ha) (client.wire.staysUp_send scope request run)

/-- The verdict on the request for a blob's head is what is told of the blob. -/
theorem holds_verdict (client : Client) (scope : Scope) (repository : String) (digest : Digest)
    (run : Run) :
    let asked := client.wire.send scope (client.blobRequest repository digest .head) run
    let told := client.holds scope repository digest run
    Verdict asked.1 told.1 ∧ told.2 = asked.2.withOutput told.2.output := by
  intro asked told
  obtain ⟨output, htold⟩ := client.annotates_holds scope repository digest run
  obtain ⟨hverdict, hrun⟩ :=
    client.verdict_of_send scope (client.blobRequest repository digest .head) run
  rw [hrun] at htold
  rw [show told = _ from htold]
  exact ⟨hverdict, rfl⟩

namespace Verdict

variable {asked : Outcome Response} {told : Outcome Bool}

theorem eq_true_iff (h : Verdict asked told) :
    told = .ok true ↔ ∃ response, asked = .ok response ∧ response.status.code = 200 := by
  cases h with
  | present hs => simp [hs]
  | elsewise _ hother => simp [hother]
  | absent hs => simp [hs]
  | refused hs _ =>
      refine iff_of_false nofun ?_
      rintro ⟨response, ha, h200⟩
      cases ha
      simp [Status.isSuccess, h200] at hs
  | _ => simp

/-- Only another success and a 404, which the wire may tell as its failure, say
that it is not there. -/
theorem eq_false_iff (h : Verdict asked told) :
    told = .ok false ↔
      (∃ response, asked = .ok response ∧ (response.status.code = 404 ∨
        response.status.isSuccess = true ∧ response.status.code ≠ 200)) ∨
      ∃ url, asked = .failed (.status .notFound url) := by
  cases h with
  | present hs => simp [hs]
  | elsewise hs hother => simp [hs, hother]
  | absent hs => simp [hs]
  | refused hs hother => simp [hs, hother]
  | missing => simp
  | failed hother => simpa using hother
  | endless => simp

/-- Every other status is told as it is, and every other failure unchanged. -/
theorem eq_failed_iff (h : Verdict asked told) (failure : Failure) :
    told = .failed failure ↔
      (∃ response, asked = .ok response ∧ response.status.isSuccess = false ∧
        response.status.code ≠ 404 ∧
        failure = .status response.status response.url.text) ∨
      (asked = .failed failure ∧ ∀ url, failure ≠ .status .notFound url) := by
  cases h with
  | present hs => simp [Status.isSuccess, hs]
  | elsewise hs _ => simp [hs]
  | absent hs => simp [hs]
  | refused hs hother =>
      constructor
      · intro hf
        cases hf
        exact .inl ⟨_, rfl, hs, hother, rfl⟩
      · rintro (⟨response, ha, -, -, hf⟩ | ⟨ha, -⟩)
        · cases ha
          rw [hf]
        · cases ha
  | missing =>
      refine iff_of_false nofun ?_
      rintro (⟨response, ha, -⟩ | ⟨ha, hother⟩)
      · cases ha
      · cases ha
        exact hother _ rfl
  | failed hother =>
      constructor
      · intro hf
        cases hf
        exact .inr ⟨rfl, hother⟩
      · rintro (⟨response, ha, -⟩ | ⟨ha, -⟩)
        · cases ha
        · cases ha
          rfl
  | endless => simp

theorem stuck_iff (h : Verdict asked told) : told = .stuck ↔ asked = .stuck := by
  cases h <;> simp

theorem not_overflow (h : Verdict asked told) : told ≠ .overflow := by
  cases h <;> nofun

end Verdict

/-- Whether a blob is there, whatever the wire, the scope and the far side do.
At most one request is handed over, for the head of the blob.  A blob is there
if this is answered with 200.  It is not there if it is answered with another
success or with 404, or if the wire fails with a 404.  Everything else, a scope
that ends and any other failure of the wire with it, is told as a failure. -/
theorem presence_follows_answer (client : Client) (scope : Scope) (repository : String)
    (digest : Digest) (run : Run) :
    let head : Request := { method := .head, url := client.address.blob repository digest }
    let asked := client.wire.send scope head run
    let told := client.holds scope repository digest run
    told.2 = asked.2.withOutput told.2.output ∧
    told.2.handed = run.handed ++ (if scope.endedIn? run = none then [head] else []) ∧
    (told.1 = .ok true ↔ ∃ response, asked.1 = .ok response ∧ response.status.code = 200) ∧
    (told.1 = .ok false ↔
      (∃ response, asked.1 = .ok response ∧ (response.status.code = 404 ∨
        response.status.isSuccess = true ∧ response.status.code ≠ 200)) ∨
      ∃ url, asked.1 = .failed (.status .notFound url)) ∧
    (∀ failure, told.1 = .failed failure ↔
      (∃ response, asked.1 = .ok response ∧ response.status.isSuccess = false ∧
        response.status.code ≠ 404 ∧
        failure = .status response.status response.url.text) ∨
      (asked.1 = .failed failure ∧ ∀ url, failure ≠ .status .notFound url)) ∧
    (∀ failure, scope.endedIn? run = some failure → told.1 = .failed failure) ∧
    (∀ failure, asked.1 = .failed failure → scope.endedIn? asked.2 = some failure →
      told.1 = .failed failure) ∧
    (∀ failure, asked.1 = .failed failure →
      scope.endedIn? asked.2 = some failure ∨ client.wire.OwnFailure head run.replies failure) ∧
    (∀ spent, client.wire = .direct spent → scope.endedIn? run = none →
      let reply := Wire.directReply spent head run.replies
      (asked.1 = .ofExcept (reply.ending.result head) ∧ .stall ∉ reply.before) ∨
        scope.GivesUp (fun _ => False) asked.1 asked.2) ∧
    (told.1 = .stuck → scope.endedIn? told.2 = none ∧ scope.deadline = none ∧
      ∃ reply ∈ run.replies, .stall ∈ reply.before) ∧
    told.1 ≠ .overflow := by
  intro head asked told
  obtain ⟨hv, hrun⟩ : Verdict asked.1 told.1 ∧ told.2 = asked.2.withOutput told.2.output :=
    client.holds_verdict scope repository digest run
  have hhanded : told.2.handed =
      run.handed ++ (if scope.endedIn? run = none then [head] else []) := by
    rw [hrun]
    exact client.wire.send_handed scope head run
  have hended (failure : Failure) (hasked : asked.1 = .failed failure)
      (he : failure.isCancelled = true) : told.1 = .failed failure := by
    refine (hv.eq_failed_iff failure).mpr (.inr ⟨hasked, fun url hf => ?_⟩)
    rw [hf] at he
    cases he
  refine ⟨hrun, hhanded, hv.eq_true_iff, hv.eq_false_iff, hv.eq_failed_iff, ?_, ?_, ?_, ?_, ?_,
    hv.not_overflow⟩
  · intro failure he
    exact hended failure (congrArg Prod.fst (Wire.send_of_ended he)) (Scope.isCancelled_of_ended he)
  · intro failure hasked he
    exact hended failure hasked (Scope.isCancelled_of_ended he)
  · intro failure hasked
    exact Wire.send_failed (Prod.ext hasked rfl)
  · intro spent hw hopen
    exact Wire.send_direct hw hopen
  · intro hstuck
    obtain ⟨hopen, hstall⟩ := Wire.send_stuck (Prod.ext (hv.stuck_iff.mp hstuck) rfl)
    rw [hrun]
    exact ⟨hopen, hstall⟩

end OciBlobs.Client
