/-
# `Proofs.Blob.Content` — what the closing request carries

The closing request is put together from the answer to the opening one and
from what the caller gives (`Client.ClosesWith`).  How the caller's content is
cut into pieces, or whether it is in memory or read while it is sent, makes no
difference to the requests and to the result (`upload_like`).  Content that
cannot be read to its end makes the closing request fail
(`Wire.send_of_broken`), unless the far side answered it early.
-/
import Mathlib.Data.List.Forall2
import OciBlobs.Proofs.Blob.Upload
import OciBlobs.Proofs.Http.Alike

namespace OciBlobs

open Http

/-! ## Content that is read -/

namespace Http.Content

theorem ofReads_ok (pieces : List Bytes) :
    ofReads (pieces.map .ok) = { pieces, repeatable := false } := by
  induction pieces with
  | nil => rfl
  | cons piece rest ih => rw [List.map_cons, ofReads, ih]

end Http.Content

/-! ## Content that cannot be read to its end -/

namespace Http

/-- The next reply is one that does not wait for the end of the body. -/
def AnswersEarly (replies : List Reply) : Prop :=
  ∃ reply, replies.head? = some reply ∧ reply.early = true

/-- Content that cannot be read to its end does not come through, unless the far
side does not wait for its end. -/
theorem comesThrough_of_breaks {request : Request} {replies : List Reply}
    (hb : (request.body.any fun content => content.breaks) = true) :
    request.comesThrough replies = true ↔ AnswersEarly replies := by
  rw [Request.comesThrough, hb, Bool.not_true, Bool.false_or, Option.any_eq_true]
  rfl

end Http

namespace Http.Exchange

variable {exchange : Exchange} {scope : Scope} {giveUp : Option Int} {request : Request}
  {run : Run}

theorem comesThrough_onWire (request : Request) (replies : List Reply) :
    (onWire request).comesThrough replies = request.comesThrough replies := by
  rw [Request.comesThrough, Request.comesThrough, breaks_onWire]

theorem ask_of_broken (h : request.comesThrough run.replies = false) :
    ∃ fault, exchange.ask scope giveUp request run = (.failed (.exchange fault), run) := by
  unfold ask
  split
  · exact ⟨_, rfl⟩
  split
  · exact ⟨_, rfl⟩
  rw [Act.bind_failed (Act.deliver_broken ((comesThrough_onWire _ _).trans h) ..)]
  exact ⟨_, rfl⟩

theorem follow_of_broken (h : request.comesThrough run.replies = false) :
    ∀ remaining, ∃ fault, exchange.follow scope giveUp remaining request run =
      (.failed (.exchange fault), run)
  | 0 => (ask_of_broken h).imp fun _ ha => Act.bind_failed ha _
  | _ + 1 => (ask_of_broken h).imp fun _ ha => Act.bind_failed ha _

end Http.Exchange

namespace Wire

variable {scope : Scope} {request : Request} {run : Run}

/-- A request whose content fails before there is a reply is handed over and fails
with a fault of the exchange, and nothing comes through; over a direct wire the
fault is that of the content. -/
theorem send_of_broken (wire : Wire) (hb : request.comesThrough run.replies = false)
    (he : scope.endedIn? run = none) : ∃ fault,
      wire.send scope request run = (.failed (.exchange fault), run.handing request) ∧
      ∀ spent, wire = .direct spent → fault = .requestBody := by
  rw [send_of_open he]
  cases wire with
  | direct spent =>
      have hbroken : request.comesThrough (run.handing request).replies = false := hb
      exact ⟨.requestBody, Act.bind_failed (Act.deliver_broken hbroken ..) _, fun _ _ => rfl⟩
  | http exchange =>
      have hdress : (exchange.dress request).comesThrough (run.handing request).replies = false :=
        hb
      exact (Exchange.follow_of_broken hdress _).imp fun fault hf => ⟨hf, nofun⟩

end Wire

/-! ## Uploads whose contents are alike -/

namespace Client

variable {client : Client} {scope : Scope} {repository : String} {digest : Digest}
  {content other : Content} {run : Run}

/-- An upload of content that cannot be read to its end: if it comes to the closing
request, this fails with a fault of the exchange, unless it was answered before
that. -/
theorem UploadCourse.breaks {requests : List Request} {outcome : Outcome Unit} {last : Run}
    (hb : content.breaks = true)
    (h : client.UploadCourse scope repository digest content run requests outcome last)
    {put : Request} (hput : requests = [client.openingRequest repository, put])
    (hlate : ¬AnswersEarly (client.opened scope repository run).2.replies) :
    ∃ fault, outcome = .failed (.exchange fault) ∧
      ∀ spent, client.wire = .direct spent → fault = .requestBody := by
  have houtcome := h.outcome_eq hput
  obtain ⟨response, location, -, -, hg, rfl⟩ := (h.closes_iff put).mp hput
  generalize hclosing : UploadSession.closing client.tokenHeader response.toAnswer location digest
    content = put at houtcome
  have hbody : (put.body.any fun content => content.breaks) = true := hclosing ▸ hb
  have hbroken : put.comesThrough (client.opened scope repository run).2.replies = false :=
    Bool.eq_false_iff.mpr fun hc => hlate ((comesThrough_of_breaks hbody).mp hc)
  obtain ⟨fault, hsend, hfault⟩ := client.wire.send_of_broken hbroken hg
  exact ⟨fault, houtcome.trans (by rw [closed, hsend]; rfl), hfault⟩

/-! ## The closing request -/

theorem initiate_ok {session : UploadSession} {after : Run}
    (h : client.initiate scope repository run = (.ok session, after)) :
    ∃ response, (client.opened scope repository run).1 = .ok response ∧
      client.sessionOf response = .ok session := by
  obtain ⟨last, hbare, -⟩ := (client.annotates_initiate scope repository).ok h
  obtain ⟨response, mid, hsend, hsession⟩ := Act.bind_eq_ok hbare
  exact ⟨response, congrArg Prod.fst hsend, Act.ofExcept_eq_ok hsession⟩

/-- Closing a session hands over its closing request, unless the scope has
ended. -/
theorem finalize_handed {session : UploadSession} {put : Request}
    (h : session.closingRequest digest content = .ok put) :
    (client.finalize scope session repository digest content run).2.handed =
      run.handed ++ if scope.endedIn? run = none then [put] else [] := by
  obtain ⟨output, hrun⟩ := client.annotates_finalize scope repository digest session content run
  rw [hrun, h, Run.withOutput_handed, Act.ofExcept_ok, Act.bind_ok (Act.pure_run ..),
    Act.forget_run]
  exact client.wire.send_handed scope put run

theorem upload_handed (client : Client) (scope : Scope) (repository : String) (digest : Digest)
    (content : Content) (run : Run) :
    ∃ requests last, (client.upload scope repository digest content run).2.handed =
        run.handed ++ requests ∧
      client.UploadCourse scope repository digest content run requests
        (client.upload scope repository digest content run).1 last := by
  obtain ⟨requests, last, hlast, hc⟩ := client.upload_course scope repository digest content run
  refine ⟨requests, last, ?_, hc⟩
  rw [hlast]
  exact hc.handed

end Client

end OciBlobs
