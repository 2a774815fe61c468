/-
# `Proofs.Blob.Ends` — what keeps an operation from coming to an end

An operation comes to a value or to a failure.  It lasts for ever only over a
reply that stalls, itself or in a piece of its body, and only in a scope without
a deadline; and it never brings the run down (`Act.Ends`).

An action has this for the replies that were there when it was begun, of which
it leaves the last ones.  So the property goes through sequencing.  What is read
of a body is read later than its reply was taken, and what comes of an action
says of its value what is known of it then:

    ends_send        a body stalls only if its reply does
    ends_copyFrom    copying such a body
    ends_decode      decoding one
    ends_holds, …    the operations
-/
import OciBlobs.Proofs.Blob.Bare
import OciBlobs.Proofs.Blob.Document
import OciBlobs.Proofs.Http.Alike

namespace OciBlobs

open Http

/-- Nothing ever comes of the reply, or not all of the body that it brings. -/
def Http.Reply.Stalls (reply : Reply) : Prop :=
  .stall ∈ reply.before ∨
    ∃ answer url, reply.ending = .answer answer url ∧
      ∃ piece ∈ answer.body, .stall ∈ piece.before

/-- How an action ends that the replies are for: with a value as told, with a
failure, or never, over a reply that stalls. -/
inductive Outcome.EndsBy {α : Type} (scope : Scope) (replies : List Reply) (told : α → Prop) :
    Outcome α → Prop
  | ok {a : α} (holds : told a) : EndsBy scope replies told (.ok a)
  | failed (failure : Failure) : EndsBy scope replies told (.failed failure)
  | stuck (noDeadline : scope.deadline = none) (stalls : ∃ reply ∈ replies, reply.Stalls) :
      EndsBy scope replies told .stuck

namespace Act

variable {α β : Type} {scope : Scope} {replies : List Reply} {told : α → Prop}
  {tells : β → Prop}

/-- With some of the last of the replies to come, the action ends and leaves some
of the last of them. -/
def Ends (scope : Scope) (replies : List Reply) (told : α → Prop) (act : Act α) : Prop :=
  ∀ run, run.replies <:+ replies →
    (act run).2.replies <:+ replies ∧ (act run).1.EndsBy scope replies told

namespace Ends

theorem pure {a : α} (h : told a) : (Pure.pure a : Act α).Ends scope replies told :=
  fun _ hs => ⟨hs, .ok h⟩

theorem fail (failure : Failure) : (Act.fail failure : Act α).Ends scope replies told :=
  fun _ hs => ⟨hs, .failed failure⟩

theorem ofExcept {result : Except Failure α} (h : ∀ a, result = .ok a → told a) :
    (Act.ofExcept result).Ends scope replies told := by
  cases result with
  | ok a => exact .pure (h a rfl)
  | error failure => exact .fail failure

theorem result (result : Except Failure α) :
    (Act.ofExcept result).Ends scope replies fun _ => True :=
  .ofExcept fun _ _ => trivial

theorem change {f : Run → Run} (h : ∀ run, (f run).replies = run.replies) :
    (Act.change f).Ends scope replies fun _ => True :=
  fun run hs => ⟨(h run).symm ▸ hs, .ok trivial⟩

theorem state {next : Run → Act α} (h : ∀ run, (next run).Ends scope replies told) :
    (Act.state >>= next).Ends scope replies told :=
  fun run hs => h run run hs

theorem bind {act : Act α} {next : α → Act β} (h : act.Ends scope replies told)
    (hn : ∀ a, told a → (next a).Ends scope replies tells) :
    (act >>= next).Ends scope replies tells := by
  intro run hs
  obtain ⟨hleft, hends⟩ := h run hs
  rw [bind_run]
  generalize act run = ended at hleft hends ⊢
  obtain ⟨outcome, after⟩ := ended
  cases hends with
  | ok holds => exact hn _ holds after hleft
  | failed failure => exact ⟨hleft, .failed failure⟩
  | stuck noDeadline stalls => exact ⟨hleft, .stuck noDeadline stalls⟩

theorem attempt {act : Act α} (h : act.Ends scope replies told) :
    act.attempt.Ends scope replies fun result => ∀ a, result = .ok a → told a := by
  intro run hs
  obtain ⟨hleft, hends⟩ := h run hs
  rw [attempt_run]
  generalize act run = ended at hleft hends ⊢
  obtain ⟨outcome, after⟩ := ended
  cases hends with
  | ok holds =>
      refine ⟨hleft, .ok ?_⟩
      rintro a ⟨⟩
      exact holds
  | failed failure => exact ⟨hleft, .ok nofun⟩
  | stuck noDeadline stalls => exact ⟨hleft, .stuck noDeadline stalls⟩

theorem mono {act : Act α} {tells : α → Prop} (h : act.Ends scope replies told)
    (himp : ∀ a, told a → tells a) : act.Ends scope replies tells := by
  intro run hs
  obtain ⟨hleft, hends⟩ := h run hs
  refine ⟨hleft, ?_⟩
  generalize (act run).1 = outcome at hends ⊢
  cases hends with
  | ok holds => exact .ok (himp _ holds)
  | failed failure => exact .failed failure
  | stuck noDeadline stalls => exact .stuck noDeadline stalls

theorem annotated {act bare : Act α} (h : bare.Ends scope replies told)
    (ha : act.Annotates bare) : act.Ends scope replies told := by
  intro run hs
  obtain ⟨output, hrun⟩ := ha run
  rw [hrun]
  exact h run hs

end Ends

end Act

/-! ## Sending -/

theorem Http.Exchange.follow_ok {exchange : Exchange} {scope : Scope} {giveUp : Option Int}
    {response : Response} :
    ∀ (remaining : Nat) (request : Request) (run after : Run),
      exchange.follow scope giveUp remaining request run = (.ok response, after) →
      ∃ reply ∈ run.replies, ∃ answer url asked,
        reply.ending = .answer answer url ∧ response = received asked answer := by
  intro remaining
  induction remaining with
  | zero =>
      intro request run after h
      obtain ⟨answer, mid, hask, hnext⟩ := Act.bind_eq_ok h
      obtain ⟨reply, hm, url, hend⟩ := ask_ok hask
      cases hr : redirected? request answer with
      | none =>
          rw [hr] at hnext
          cases hnext
          exact ⟨reply, hm, answer, url, request, hend, rfl⟩
      | some next =>
          rw [hr] at hnext
          cases hnext
  | succ remaining ih =>
      intro request run after h
      obtain ⟨answer, mid, hask, hnext⟩ := Act.bind_eq_ok h
      cases hr : redirected? request answer with
      | none =>
          rw [hr] at hnext
          cases hnext
          obtain ⟨reply, hm, url, hend⟩ := ask_ok hask
          exact ⟨reply, hm, answer, url, request, hend, rfl⟩
      | some next =>
          rw [hr] at hnext
          have hleft := (Act.sends_carries.ask exchange scope giveUp request run).replies
          rw [hask] at hleft
          obtain ⟨reply, hm, given⟩ := ih next mid after hnext
          exact ⟨reply, hleft.subset hm, given⟩

namespace Wire

variable {wire : Wire} {scope : Scope} {request : Request} {run after : Run}

theorem send_piece {response : Response} (h : wire.send scope request run = (.ok response, after))
    {piece : Piece} (hp : piece ∈ response.body) :
    ∃ reply ∈ run.replies, ∃ answer url, reply.ending = .answer answer url ∧
      piece ∈ answer.body := by
  cases he : scope.endedIn? run with
  | some failure =>
      rw [send_of_ended he] at h
      cases h
  | none =>
      rw [send_of_open he] at h
      cases wire with
      | http exchange =>
          obtain ⟨reply, hm, answer, url, asked, hend, rfl⟩ :=
            Exchange.follow_ok _ _ (run.handing request) _ h
          refine ⟨reply, hm, answer, url, hend, ?_⟩
          -- a request for heads alone gets nothing of the body
          by_cases hhead : asked.method = .head
          · simp [Exchange.received, hhead] at hp
          · simpa [Exchange.received, hhead] using hp
      | direct spent =>
          obtain ⟨taken, -, htaken⟩ := sendDirect_run spent scope request (run.handing request)
          rw [carry, htaken] at h
          obtain ⟨_, _, _, hresult⟩ := Act.bind_eq_ok h
          obtain ⟨url, hend⟩ := Exchange.result_eq_ok (Act.ofExcept_eq_ok hresult)
          unfold directReply at hend
          split at hend
          · cases hreplies : run.replies with
            | nil =>
                rw [show (run.handing request).replies = [] from hreplies] at hend
                cases hend
            | cons reply rest =>
                rw [show (run.handing request).replies = reply :: rest from hreplies] at hend
                exact ⟨reply, List.mem_cons_self, _, url, hend, hp⟩
          · cases hend

end Wire

/-- A body that stalls is one of the replies' stalling. -/
def Http.Response.StallsBy (replies : List Reply) (response : Response) : Prop :=
  ∀ piece ∈ response.body, .stall ∈ piece.before → ∃ reply ∈ replies, reply.Stalls

section
variable (scope : Scope) (replies : List Reply)

theorem Wire.ends_send (wire : Wire) (request : Request) :
    (wire.send scope request).Ends scope replies (Response.StallsBy replies) := by
  intro run hs
  have hleft := (wire.precedes_send scope request run).replies
  have hup := wire.staysUp_send scope request run
  cases hrun : wire.send scope request run with | mk outcome after => ?_
  rw [hrun] at hleft hup
  refine ⟨hleft.trans hs, ?_⟩
  cases outcome with
  | ok response =>
      refine .ok fun piece hp hstall => ?_
      obtain ⟨reply, hm, answer, url, hend, hbody⟩ := send_piece hrun hp
      exact ⟨reply, hs.subset hm, .inr ⟨answer, url, hend, piece, hbody, hstall⟩⟩
  | failed failure => exact .failed failure
  | stuck =>
      obtain ⟨-, hdeadline, reply, hm, hstall⟩ := send_stuck hrun
      exact .stuck hdeadline ⟨reply, hs.subset hm, .inl hstall⟩
  | overflow => exact absurd rfl hup

theorem Wire.ends_sendForSuccess (wire : Wire) (request : Request) :
    (wire.sendForSuccess scope request).Ends scope replies fun _ => True :=
  (wire.ends_send scope replies request).bind fun _ _ => .result _

/-! ## Reading -/

namespace Download

variable {scope replies}

theorem ends_take {piece : Piece}
    (h : .stall ∈ piece.before → ∃ reply ∈ replies, reply.Stalls) :
    (scope.guarded (piece.receive scope)).Ends scope replies fun _ => True := by
  intro run hs
  have hidle : (scope.guarded (piece.receive scope)).Within Run.Idles :=
    Act.waits_idles.guarded scope (Act.reads_idles.receive scope piece)
  refine ⟨(hidle run).replies ▸ hs, ?_⟩
  have ht := take_ends scope piece run
  generalize scope.guarded (piece.receive scope) run = taken at ht
  obtain ⟨outcome, after⟩ := taken
  cases ht with
  | data _ _ => exact .ok trivial
  | broken _ _ => exact .failed _
  | ended _ => exact .failed _
  | endless hstall _ hdeadline => exact .stuck hdeadline (h hstall)

theorem ends_check : scope.check.Ends scope replies fun _ => True := by
  intro run hs
  rw [Scope.check]
  split
  · exact ⟨hs, .failed _⟩
  · exact ⟨hs, .ok trivial⟩

theorem ends_copyFrom (sink : Sink) :
    ∀ (taken : Nat) (body : List Piece),
      (∀ piece ∈ body, .stall ∈ piece.before → ∃ reply ∈ replies, reply.Stalls) →
      (copyFrom scope sink taken body).Ends scope replies fun _ => True
  | _, [], _ => by
      refine ends_check.attempt.bind fun result _ => ?_
      cases result with
      | ok _ => exact .pure trivial
      | error failure => exact .pure trivial
  | taken, piece :: rest, h => by
      refine (ends_take (h piece List.mem_cons_self)).attempt.bind fun result _ => ?_
      cases result with
      | error failure => exact .pure trivial
      | ok data =>
          dsimp only
          split
          · exact .pure trivial
          · have hrest := fun other hm => h other (List.mem_cons_of_mem piece hm)
            exact (ends_copyFrom sink _ rest hrest).bind fun _ _ => .pure trivial

theorem stall_of_closeOf {body : List Piece} (h : closeOf body = .stalls) :
    ∃ piece ∈ body, .stall ∈ piece.before := by
  induction body with
  | nil => cases h
  | cons piece rest ih =>
      by_cases hstall : .stall ∈ piece.before
      · exact ⟨piece, List.mem_cons_self, hstall⟩
      · rw [closeOf, if_neg hstall] at h
        split at h
        · obtain ⟨later, hm, hs⟩ := ih h
          exact ⟨later, List.mem_cons_of_mem _ hm, hs⟩
        · cases h

theorem ends_decode {download : Download} (h : download.response.StallsBy replies) :
    (download.decode .document).Ends download.scope replies fun _ => True := by
  intro run hs
  refine ⟨(download.idles_decode run).replies ▸ hs, ?_⟩
  have hd := (decode_ends download run).1
  generalize download.decode .document run = ended at hd
  obtain ⟨outcome, after⟩ := ended
  cases hd with
  | whole _ => exact .ok trivial
  | doomed _ => exact .ok trivial
  | broken _ => exact .failed _
  | ended _ => exact .failed _
  | endless hstalls _ hdeadline =>
      obtain ⟨piece, hm, hstall⟩ := stall_of_closeOf hstalls
      exact .stuck hdeadline (h piece hm hstall)

end Download

/-! ## The operations -/

namespace Client

variable (client : Client) (repository : String) (digest : Digest)

theorem ends_holds : (client.holds scope repository digest).Ends scope replies fun _ => True := by
  refine Act.Ends.annotated ?_ (client.annotates_holds scope repository digest)
  exact (client.wire.ends_sendForSuccess scope replies _).attempt.bind fun _ _ => .result _

theorem ends_download :
    (client.download scope repository digest).Ends scope replies fun download =>
      download.scope = scope ∧ download.response.StallsBy replies := by
  refine Act.Ends.annotated ?_ (client.annotates_download scope repository digest)
  exact (client.wire.ends_send scope replies _).bind fun _ hbody => .pure ⟨rfl, hbody⟩

theorem ends_document :
    (client.document .document scope repository digest).Ends scope replies fun _ => True := by
  refine (client.ends_download scope replies repository digest).bind ?_
  rintro download ⟨rfl, hbody⟩
  refine (Download.ends_decode hbody).bind fun result _ => ?_
  cases result with
  | ok value => exact .pure trivial
  | error fault => exact (Act.Ends.change fun _ => rfl).bind fun _ _ => .fail _

theorem ends_upload (content : Content) :
    (client.upload scope repository digest content).Ends scope replies fun _ => True := by
  refine Act.Ends.annotated ?_ (client.annotates_upload scope repository digest content)
  refine (client.wire.ends_send scope replies _).bind fun response _ => ?_
  refine (Act.Ends.result _).bind fun session _ => (Act.Ends.result _).bind fun request _ => ?_
  exact (client.wire.ends_send scope replies request).bind fun _ _ => .pure trivial

end Client

end

end OciBlobs
