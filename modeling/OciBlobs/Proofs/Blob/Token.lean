/-
# `Proofs.Blob.Token` — which tokens can be sent back

Two checks stand between a token that a registry sends and the request that
brings it back: the answer's header is read as a text, and the text is put into
a header again.  The first lets through printable ASCII and tabs, the second
all but control characters (`value_eq_none`), so the second never stops what
the first let through.  A session that was put together by hand has met the
first check only if its token would have passed it; this is the one way to the
failure `UploadSession.invalidToken`.
-/
import OciBlobs.Proofs.Blob.Content

namespace OciBlobs

open Http

/-! ## Characters that no header takes -/

namespace Http.Header

/-- Control characters, without the tab. -/
def IsControl (c : Char) : Prop :=
  (c.toNat < 0x20 ∧ c ≠ '\t') ∨ c.toNat = 0x7F

theorem isValueByte_iff {b : UInt8} :
    isValueByte b = true ↔ (0x20 ≤ b.toNat ∧ b.toNat ≠ 0x7F) ∨ b.toNat = 0x09 := by
  simp only [isValueByte, Bool.or_eq_true, Bool.and_eq_true, decide_eq_true_eq, bne_iff_ne,
    beq_iff_eq, ne_eq, UInt8.le_iff_toNat_le, UInt8.toNat_inj.symm]
  rfl

theorem ne_tab_iff {c : Char} : c ≠ '\t' ↔ c.toNat ≠ 0x09 :=
  not_congr Char.toNat_inj.symm

theorem isValueByte_iff_of_mem {c : Char} {b : UInt8} (hb : b ∈ Utf8.encodeChar c) :
    isValueByte b = true ↔ ¬IsControl c := by
  unfold IsControl
  rw [isValueByte_iff, ne_tab_iff]
  rcases Utf8.encodeChar_octets hb with ⟨-, heq⟩ | ⟨hc, hb'⟩
  · omega
  · omega

/-- A text makes no value exactly when there is a control character in it. -/
theorem value_eq_none {text : String} :
    value? text = none ↔ ∃ c ∈ text.toList, IsControl c := by
  have hall : (Utf8.ofString text).all isValueByte = true ↔
      ∀ c ∈ text.toList, ¬IsControl c := by
    simp only [Utf8.ofString, Utf8.encode, List.all_eq_true, List.mem_flatMap]
    constructor
    · intro h c hc
      obtain ⟨b, hb⟩ := List.exists_mem_of_ne_nil _ (Utf8.encodeChar_ne_nil c)
      exact (isValueByte_iff_of_mem hb).mp (h b ⟨c, hc, hb⟩)
    · rintro h b ⟨c, hc, hb⟩
      exact (isValueByte_iff_of_mem hb).mpr (h c hc)
  unfold value?
  dsimp only
  split
  case isTrue hbytes => simpa using hall.mp hbytes
  case isFalse hbytes => simpa using mt hall.mpr hbytes

/-- A token that goes behind a word of its own decides whether there is a value. -/
theorem value_bearer_eq_none {token : String} :
    value? ("Bearer " ++ token) = none ↔ ∃ c ∈ token.toList, IsControl c := by
  have hlead : ¬∃ c ∈ "Bearer ".toList, IsControl c := by
    rw [← value_eq_none]
    decide
  rw [value_eq_none, String.toList_append]
  constructor
  · rintro ⟨c, hc, hcontrol⟩
    rcases List.mem_append.mp hc with hc | hc
    · exact absurd ⟨c, hc, hcontrol⟩ hlead
    · exact ⟨c, hc, hcontrol⟩
  · rintro ⟨c, hc, hcontrol⟩
    exact ⟨c, List.mem_append_right _ hc, hcontrol⟩

end Http.Header

/-! ## Failures of the far side -/

/-- A wire finds nothing malformed by itself: it is what the far side told. -/
theorem Wire.told_of_malformed {wire : Wire} {request : Request} {replies : List Reply}
    {text : String} (h : wire.OwnFailure request replies (.malformed text)) :
    (∃ reply ∈ replies, reply.ending = .failure (.malformed text)) ∨
      wire = .direct (.malformed text) := by
  cases wire with
  | http exchange =>
      rcases h with ⟨fault, hfault⟩ | htold
      · cases hfault
      · exact .inl htold
  | direct spent =>
      change (directReply spent request replies).ending.result request = _ at h
      have htold {reply : Reply}
          (hr : reply.ending.result request = .error (.malformed text)) :
          reply.ending = .failure (.malformed text) := by
        unfold Reply.Ending.result at hr
        split at hr
        · cases hr
        · next cause hcause =>
            cases hr
            exact hcause
        · cases hr
      unfold directReply at h
      split at h
      · cases replies with
        | nil => exact .inr (congrArg Wire.direct (Except.error.inj h))
        | cons reply rest => exact .inl ⟨reply, List.mem_cons_self, htold h⟩
      · cases h

/-! ## Sessions that cannot be closed -/

namespace UploadSession

variable {session : UploadSession}

/-- What is told of a token that no header takes. -/
def invalidToken : Failure :=
  .malformed "invalid upload token: failed to parse header value"

theorem closingRequest_of_control (h : ∃ c ∈ session.token.toList, Header.IsControl c)
    (digest : Digest) (content : Content) :
    session.closingRequest digest content = .error invalidToken := by
  unfold closingRequest authorization
  rw [Header.value_bearer_eq_none.mpr h]
  rfl

theorem closingRequest_of_no_control (h : ¬∃ c ∈ session.token.toList, Header.IsControl c)
    (digest : Digest) (content : Content) :
    ∃ put, session.closingRequest digest content = .ok put := by
  cases hv : Header.value? ("Bearer " ++ session.token) with
  | none => exact absurd (Header.value_bearer_eq_none.mp hv) h
  | some value =>
      unfold closingRequest authorization
      rw [hv]
      exact ⟨_, rfl⟩

end UploadSession

namespace Client

section
variable (client : Client) (scope : Scope) (repository : String) {session : UploadSession}
  {digest : Digest} {content : Content} (run : Run)

theorem finalize_of_error {failure : Failure}
    (h : session.closingRequest digest content = .error failure) :
    ∃ output, client.finalize scope session repository digest content run =
      (.failed failure, run.withOutput output) := by
  obtain ⟨output, hrun⟩ := client.annotates_finalize scope repository digest session content run
  rw [h] at hrun
  exact ⟨output, hrun⟩

theorem finalize_of_closing {put : Request}
    (h : session.closingRequest digest content = .ok put) :
    ∃ output, client.finalize scope session repository digest content run =
      ((client.wire.send scope put run).1.forget,
        (client.wire.send scope put run).2.withOutput output) := by
  obtain ⟨output, hrun⟩ := client.annotates_finalize scope repository digest session content run
  rw [h, Act.ofExcept_ok, Act.bind_ok (Act.pure_run ..), Act.forget_run] at hrun
  exact ⟨output, hrun⟩

theorem finalize_malformed {put : Request} {text : String}
    (hput : session.closingRequest digest content = .ok put)
    (hfails : (client.finalize scope session repository digest content run).1 =
      .failed (.malformed text)) :
    (∃ reply ∈ run.replies, reply.ending = .failure (.malformed text)) ∨
      client.wire = .direct (.malformed text) := by
  obtain ⟨output, hrun⟩ := client.finalize_of_closing scope repository run hput
  rw [hrun] at hfails
  have hsend := Outcome.forget_eq_failed.mp hfails
  rcases Wire.send_failed (Prod.ext hsend rfl) with hended | hown
  · cases Scope.isCancelled_of_ended hended
  · exact Wire.told_of_malformed hown

end

/-- Which sessions can be closed.

A session that an answer opened can be closed by any client, in any scope and
any state, with any digest and content: if the scope has ended, closing it fails
as the scope did and hands nothing over; otherwise one `PUT` is handed over, and
closing the session ends as this request does.  The failure of a token that no
header takes is then never the client's own: only the far side may tell it, in
answer to the `PUT`.  A session that was put together in any other way fails with
it, and sends nothing, exactly when there is a control character other than a tab
in its token, whether or not the scope has ended. -/
theorem session_closable_unless_control_in_token :
    (∀ (client : Client) (scope : Scope) (repository : String) (run after : Run)
        (session : UploadSession),
      client.initiate scope repository run = (.ok session, after) →
      ∀ (closer : Client) (later : Scope) (name : String) (digest : Digest) (content : Content)
          (state : Run),
        let ended := closer.finalize later session name digest content state
        (∀ failure, later.endedIn? state = some failure →
          ended.1 = .failed failure ∧ failure.isCancelled = true ∧
            ended.2.handed = state.handed ∧ ended.2.sent = state.sent) ∧
        (later.endedIn? state = none → ∃ put, put.method = .put ∧
          ended.2.handed = state.handed ++ [put] ∧
          ended.1 = (closer.wire.send later put state).1.forget) ∧
        (ended.1 = .failed UploadSession.invalidToken →
          (∃ reply ∈ state.replies, reply.ending = .failure UploadSession.invalidToken) ∨
            closer.wire = .direct UploadSession.invalidToken)) ∧
    ∀ (client : Client) (scope : Scope) (session : UploadSession) (repository : String)
        (digest : Digest) (content : Content) (run : Run),
      let ended := client.finalize scope session repository digest content run
      (ended.1 = .failed UploadSession.invalidToken ∧ ended.2.handed = run.handed ∧
          ended.2.sent = run.sent) ↔
        ∃ c ∈ session.token.toList, (c.toNat < 0x20 ∧ c ≠ '\t') ∨ c.toNat = 0x7F := by
  constructor
  · intro client scope repository run after session h closer later name digest content state
    obtain ⟨response, -, hsession⟩ := initiate_ok h
    have hclosing := closingRequest_of_sessionOf hsession digest content
    obtain ⟨output, hrun⟩ := closer.finalize_of_closing later name state hclosing
    refine ⟨fun failure hended => ?_, fun hopen => ?_,
      closer.finalize_malformed later name state hclosing⟩
    · rw [hrun, Wire.send_of_ended hended]
      exact ⟨rfl, Scope.isCancelled_of_ended hended, rfl, rfl⟩
    · refine ⟨_, rfl, ?_, congrArg Prod.fst hrun⟩
      rw [finalize_handed hclosing, if_pos hopen]
  · intro client scope session repository digest content run
    constructor
    · rintro ⟨hfails, hhanded, -⟩
      by_contra htoken
      obtain ⟨put, hput⟩ := UploadSession.closingRequest_of_no_control htoken digest content
      rw [finalize_handed hput] at hhanded
      cases hended : scope.endedIn? run with
      | none => simp [hended] at hhanded
      | some failure =>
          -- the scope's own failure is never that of a token
          obtain ⟨output, hrun⟩ := client.finalize_of_closing scope repository run hput
          rw [hrun, Wire.send_of_ended hended] at hfails
          cases hfails
          cases Scope.isCancelled_of_ended hended
    · intro htoken
      obtain ⟨output, hrun⟩ := client.finalize_of_error scope repository run
        (UploadSession.closingRequest_of_control htoken digest content)
      rw [hrun]
      exact ⟨rfl, rfl, rfl⟩

end Client

end OciBlobs
