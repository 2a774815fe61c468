/-
# `Proofs.Caller` — callers whose scopes have ended

Whoever calls an operation in a scope that has ended, or reads a download that
was opened in one, is told so, and nothing gets to the wire.  An operation
whose scope ends while it waits for what never comes is told the same and does
nothing more.  This holds in whatever order scopes are made and ended,
operations are called and downloads are read, since a scope that has ended
stays ended.

    Scope.Under            a scope that ends with another one
    Call.act_of_ended      an operation in a scope that has ended
    Call.heedsStalls_act   an operation whose request stalls
    document_stall         one whose body stalls
    Caller.precedes_play   nothing is taken back, step after step
-/
import OciBlobs.Caller
import OciBlobs.Proofs.Blob.Content
import OciBlobs.Proofs.Blob.Document

namespace OciBlobs

open Http

/-! ## Scopes that end with others -/

namespace Scope

/-- The scope is another one or below it, and ends with it if not before. -/
structure Under (scope above : Scope) : Prop where
  token : above.token <:+ scope.token
  deadline : ∀ time, above.deadline = some time →
    ∃ sooner, scope.deadline = some sooner ∧ sooner ≤ time

namespace Under

variable {scope above : Scope} {run : Run}

theorem refl (scope : Scope) : scope.Under scope :=
  ⟨List.suffix_rfl, fun time h => ⟨time, h, Int.le_refl _⟩⟩

theorem child (scope : Scope) (number : Nat) : (scope.child number).Under scope :=
  ⟨List.suffix_cons .., fun time h => ⟨time, h, Int.le_refl _⟩⟩

theorem withDeadline (scope : Scope) (deadline : Int) :
    (scope.withDeadline deadline).Under scope := by
  refine ⟨List.suffix_rfl, fun time h => ⟨_, rfl, ?_⟩⟩
  rw [h]
  exact Int.min_le_left ..

theorem isCancelled (h : scope.Under above) {cancelled : List Token}
    (hc : above.token.isCancelled cancelled = true) :
    scope.token.isCancelled cancelled = true := by
  simp only [Token.isCancelled, List.any_eq_true, List.isSuffixOf_iff_suffix] at hc ⊢
  obtain ⟨token, hm, hs⟩ := hc
  exact ⟨token, hm, hs.trans h.token⟩

theorem isOver (h : scope.Under above) {now : Int} (ho : above.isOver now = true) :
    scope.isOver now = true := by
  cases hd : above.deadline with
  | none => simp [Scope.isOver, hd] at ho
  | some time =>
      obtain ⟨sooner, hs, hle⟩ := h.deadline time hd
      simp only [Scope.isOver, hd, hs, Option.any_some, decide_eq_true_eq] at ho ⊢
      exact Int.le_trans hle ho

end Under

/-- Once a scope has ended, so have those below it, and for ever; if it was
cancelled, this is what they say. -/
theorem endedIn_of_under {scope above : Scope} {before after : Run} {failure : Failure}
    (h : scope.Under above) (hp : before.Precedes after)
    (he : above.endedIn? before = some failure) :
    ∃ reason, scope.endedIn? after = some reason ∧
      (failure = .cancelled → reason = .cancelled) := by
  rcases endedIn_eq_some.mp he with ⟨hc, -⟩ | ⟨-, ho, rfl⟩
  · exact ⟨_, endedIn_of_cancelled (h.isCancelled (isCancelled_of_precedes hp hc)), fun _ => rfl⟩
  · have hover := h.isOver (isOver_of_precedes hp ho)
    cases hc : scope.token.isCancelled after.cancelled with
    | true => exact ⟨_, endedIn_of_cancelled hc, nofun⟩
    | false => exact ⟨_, endedIn_eq_some.mpr (.inr ⟨hc, hover, rfl⟩), nofun⟩

theorem endedIn_cancel (scope : Scope) (run : Run) :
    scope.endedIn? (scope.cancel run).2 = some .cancelled :=
  endedIn_of_cancelled (by simp [Token.isCancelled, cancel, cancelToken])

theorem isNotFound_of_ended {scope : Scope} {run : Run} {failure : Failure}
    (he : scope.endedIn? run = some failure) : failure.isNotFound = false := by
  rcases endedIn_eq_some.mp he with ⟨-, rfl⟩ | ⟨-, -, rfl⟩ <;> rfl

end Scope

/-! ## Operations -/

namespace Client

variable {client : Client} {scope : Scope} {run : Run} {failure : Failure}

theorem presenceOf_of_ended (he : scope.endedIn? run = some failure) :
    presenceOf (.error failure) = .error failure :=
  if_neg (by simp [Scope.isNotFound_of_ended he])

theorem sendForSuccess_of_ended (he : scope.endedIn? run = some failure) (request : Request) :
    client.wire.sendForSuccess scope request run = (.failed failure, run) :=
  Act.bind_failed (Wire.send_of_ended he) _

theorem presenceOf_of_timesOut {wire : Wire} (h : wire.TimesOut failure) :
    presenceOf (.error failure) = .error failure := by
  cases wire with
  | direct spent => exact h.elim
  | http exchange =>
      obtain ⟨-, url, rfl⟩ := h
      rfl

end Client

namespace Call

variable {client : Client} {scope : Scope} {run : Run} {failure : Failure}

/-- The failure that an operation has before it comes to its scope: a session
made by hand may have a token that no request can carry. -/
def refusal : Call → Option Failure
  | .finalize session _ digest content =>
    match session.closingRequest digest content with
    | .ok _ => none
    | .error failure => some failure
  | _ => none

theorem failed_of_bare {α β : Type} {act bare : Act α} (ha : act.Annotates bare) (f : α → β)
    (hb : bare run = (.failed failure, run)) :
    ∃ output, (f <$> act) run = (.failed failure, run.withOutput output) := by
  obtain ⟨output, hrun⟩ := ha run
  rw [hb] at hrun
  exact ⟨output, Act.bind_failed hrun _⟩

/-- In a scope that has ended, an operation fails with the reason for that and
leaves the run alone. -/
theorem act_of_ended (client : Client) (he : scope.endedIn? run = some failure) (call : Call) :
    ∃ output, call.act client scope run =
      (.failed (call.refusal.getD failure), run.withOutput output) := by
  have hsend (request : Request) : client.wire.send scope request run = (.failed failure, run) :=
    Wire.send_of_ended he
  cases call with
  | holds repository digest =>
      refine failed_of_bare (client.annotates_holds scope repository digest) _ ?_
      have hask : client.wire.sendForSuccess scope
          (client.blobRequest repository digest .head) run = (.failed failure, run) :=
        Client.sendForSuccess_of_ended he _
      rw [Act.bind_run, Act.attempt_run, hask]
      dsimp only
      rw [Client.presenceOf_of_ended he]
      rfl
  | download repository digest =>
      exact failed_of_bare (client.annotates_download scope repository digest) _
        (Act.bind_failed (hsend _) _)
  | document repository digest =>
      obtain ⟨output, hrun⟩ := client.annotates_download scope repository digest run
      rw [Act.bind_failed (hsend _)] at hrun
      exact ⟨output, Act.bind_failed (Act.bind_failed hrun _) _⟩
  | initiate repository =>
      exact failed_of_bare (client.annotates_initiate scope repository) _
        (Act.bind_failed (hsend _) _)
  | finalize session repository digest content =>
      refine failed_of_bare
        (client.annotates_finalize scope repository digest session content) _ ?_
      simp only [refusal]
      cases session.closingRequest digest content with
      | ok request => exact Act.bind_failed (hsend _) _
      | error refused => rfl
  | upload repository digest content =>
      exact failed_of_bare (client.annotates_upload scope repository digest content) _
        (Act.bind_failed (hsend _) _)
  | uploadReads repository digest reads =>
      exact failed_of_bare (client.annotates_upload scope repository digest _) _
        (Act.bind_failed (hsend _) _)

theorem heedsStalls_act (client : Client) (scope : Scope) (call : Call) :
    (call.act client scope).HeedsStalls scope client.wire.TimesOut := by
  have hidle {α : Type} {act : Act α} (h : act.Within Run.Idles) :
      act.HeedsStalls scope client.wire.TimesOut := Act.heedsStalls_of_idles h
  have hsend (request : Request) :
      (client.wire.send scope request).HeedsStalls scope client.wire.TimesOut :=
    client.wire.heedsStalls_send scope request
  have hdownload (repository : String) (digest : Digest) :
      (client.download scope repository digest).HeedsStalls scope client.wire.TimesOut :=
    ((hsend _).bind fun _ => hidle (.pure _)).annotates
      (client.annotates_download scope repository digest)
  have hupload (repository : String) (digest : Digest) (content : Content) :
      (client.upload scope repository digest content).HeedsStalls scope client.wire.TimesOut := by
    refine ((hsend _).bind fun response => ?_).annotates
      (client.annotates_upload scope repository digest content)
    exact (hidle (.ofExcept _)).bind fun _ => (hidle (.ofExcept _)).bind fun _ =>
      (hsend _).bind fun _ => hidle (.pure _)
  cases call with
  | holds repository digest =>
      have hask (request : Request) :
          (client.wire.sendForSuccess scope request).HeedsStalls scope client.wire.TimesOut :=
        (hsend request).bind fun _ => hidle (.ofExcept _)
      refine Act.HeedsStalls.map (.annotates (.rethrown (hask _) (fun _ => hidle (.ofExcept _)) ?_)
        (client.annotates_holds scope repository digest)) _
      rintro failure (hlate | ⟨run, he⟩)
      · rw [Client.presenceOf_of_timesOut hlate]
        rfl
      · rw [Client.presenceOf_of_ended he]
        rfl
  | download repository digest => exact (hdownload _ _).map _
  | document repository digest =>
      refine ((hdownload _ _).bind fun download => ?_).map _
      refine hidle (download.idles_decode.bind fun result => ?_)
      cases result with
      | ok value => exact .pure _
      | error fault => exact (Act.idles_note _ _).bind fun _ => .fail _
  | initiate repository =>
      exact (((hsend _).bind fun _ => hidle (.ofExcept _)).annotates
        (client.annotates_initiate scope repository)).map _
  | finalize session repository digest content =>
      refine Act.HeedsStalls.map (.annotates ((hidle (.ofExcept _)).bind fun _ => ?_)
        (client.annotates_finalize scope repository digest session content)) _
      exact (hsend _).bind fun _ => hidle (.pure _)
  | upload repository digest content => exact (hupload _ _ _).map _
  | uploadReads repository digest reads => exact (hupload _ _ _).map _

theorem refusal_eq_some {call : Call} (h : call.refusal = some failure) :
    (∃ text, failure = .malformed text) ∧ ∃ session repository digest content,
      call = .finalize session repository digest content ∧
      session.authorization = .error failure := by
  cases call with
  | finalize session repository digest content =>
      simp only [refusal, UploadSession.closingRequest] at h
      cases ha : session.authorization with
      | ok header =>
          rw [ha] at h
          cases h
      | error refused =>
          rw [ha] at h
          cases h
          refine ⟨?_, session, repository, digest, content, rfl, ha⟩
          unfold UploadSession.authorization at ha
          split at ha
          · cases ha
          · cases ha
            exact ⟨_, rfl⟩
  | _ => cases h

theorem refusal_of_initiate {session : UploadSession} {repository : String} {after : Run}
    (h : client.initiate scope repository run = (.ok session, after)) (name : String)
    (digest : Digest) (content : Content) :
    (Call.finalize session name digest content).refusal = none := by
  obtain ⟨response, -, hs⟩ := Client.initiate_ok h
  simp only [refusal, Client.closingRequest_of_sessionOf hs]

/-- A download that an operation gives is read in the scope of the operation. -/
theorem scope_of_act {call : Call} {download : Download} {after : Run}
    (h : call.act client scope run = (.ok (.download download), after)) :
    download.scope = scope := by
  cases call with
  | download repository digest =>
      obtain ⟨given, mid, hd, hpure⟩ := Act.bind_eq_ok h
      cases hpure
      exact Client.scope_of_download hd
  | _ =>
      obtain ⟨_, _, -, hpure⟩ := Act.bind_eq_ok h
      cases hpure

/-- A document whose body stalls: nothing more is sent, and its fault was found
before the stall, or the operation gives up. -/
theorem document_stall {repository : String} {digest : Digest} {download : Download}
    {opened : Run} (h : client.download scope repository digest run = (.ok download, opened))
    (hstalls : Download.closeOf download.response.body = .stalls) :
    let ended := (Call.document repository digest).act client scope run
    opened.Idles ended.2 ∧
    (scope.GivesUp (fun _ => False) ended.1 ended.2 ∨ ∃ fault,
      Json.Decoder.Dooms (Download.arriving download.response.body) fault ∧
      ended.1 = .failed (.undecodable fault)) := by
  have htells := Client.tells_document h
  have hact : (Call.document repository digest).act client scope run =
      (client.document .document scope repository digest >>= fun value =>
        pure (Result.document value)) run := rfl
  rw [Act.bind_run] at hact
  have hidle : opened.Idles (client.document .document scope repository digest run).2 := by
    obtain ⟨output, hrun⟩ := Client.document_run h
    rw [hrun]
    exact IsTrans.trans _ _ _ (download.idles_decode opened) (Run.idles_withOutput _ _)
  dsimp only
  generalize client.document .document scope repository digest run = ended at htells hact hidle
  obtain ⟨outcome, after⟩ := ended
  cases he : scope.endedIn? after with
  | some failure =>
      obtain rfl : outcome = .failed failure := htells.ended failure he
      rw [hact]
      exact ⟨hidle, .inl (.ended he)⟩
  | none =>
      rcases htells.stalled he hstalls with ⟨houtcome, hd⟩ | ⟨fault, hdooms, houtcome⟩
      · obtain rfl : outcome = .stuck := houtcome
        rw [hact]
        exact ⟨hidle, .inl (.endless he hd)⟩
      · obtain rfl : outcome = .failed (.undecodable fault) := houtcome
        rw [hact]
        exact ⟨hidle, .inr ⟨fault, hdooms, rfl⟩⟩

end Call

/-! ## Callers -/

namespace Caller

variable (client : Client)

/-- The step tells its caller something and, notes apart, does nothing. -/
def OnlyTells (caller : Caller) (step : Step) (told : Told) : Prop :=
  (caller.step client step).told = caller.told ++ [told] ∧
    ∃ output, (caller.step client step).run = caller.run.withOutput output

/-- Downloads are not opened again once they are used up, and what is left of
one is read in the same scope. -/
structure KeepsScopes (before after : List (Option Download)) : Prop where
  length : before.length ≤ after.length
  scope : ∀ number rest, number < before.length → after[number]? = some (some rest) →
    ∃ download, before[number]? = some (some download) ∧ rest.scope = download.scope

namespace KeepsScopes

theorem refl (held : List (Option Download)) : KeepsScopes held held :=
  ⟨Nat.le_refl _, fun _ rest _ h => ⟨rest, h, rfl⟩⟩

theorem trans {a b c : List (Option Download)} (h : KeepsScopes a b) (h' : KeepsScopes b c) :
    KeepsScopes a c := by
  refine ⟨Nat.le_trans h.length h'.length, fun number rest hn hr => ?_⟩
  obtain ⟨middle, hm, hs⟩ := h'.scope number rest (Nat.lt_of_lt_of_le hn h.length) hr
  obtain ⟨download, hd, hs'⟩ := h.scope number middle hn hm
  exact ⟨download, hd, hs.trans hs'⟩

theorem append (held more : List (Option Download)) : KeepsScopes held (held ++ more) := by
  refine ⟨by simp, fun number rest hn hr => ⟨rest, ?_, rfl⟩⟩
  rwa [List.getElem?_append_left hn] at hr

theorem read {held : List (Option Download)} {number : Nat} {download : Download}
    (hd : held[number]? = some (some download)) (way : Download.Way) :
    KeepsScopes held (held.set number (download.left way)) := by
  refine ⟨by simp, fun other rest hn hr => ?_⟩
  rcases eq_or_ne number other with rfl | hne
  · rw [List.getElem?_set_self hn] at hr
    refine ⟨download, hd, ?_⟩
    cases way with
    | chunk =>
        cases hr
        rfl
    | _ => cases hr
  · rw [List.getElem?_set_ne hne] at hr
    exact ⟨rest, hr, rfl⟩

end KeepsScopes

/-- Nothing that was done is taken back, no scope is lost, and downloads keep
theirs. -/
structure Precedes (before after : Caller) : Prop where
  run : before.run.Precedes after.run
  scopes : before.scopes <+: after.scopes
  downloads : KeepsScopes before.downloads after.downloads

theorem Precedes.trans {a b c : Caller} (h : a.Precedes b) (h' : b.Precedes c) : a.Precedes c :=
  ⟨h.run.trans h'.run, h.scopes.trans h'.scopes, h.downloads.trans h'.downloads⟩

theorem precedes_gain {caller : Caller} {ended : Outcome Scope × Run}
    (h : caller.run.Precedes ended.2) : caller.Precedes (caller.gain ended) := by
  refine ⟨h, ?_, .refl _⟩
  rcases ended with ⟨_ | _ | _ | _, after⟩
  · exact List.prefix_append ..
  all_goals exact List.prefix_rfl

theorem precedes_take {caller : Caller} {ended : Outcome Result × Run}
    (h : caller.run.Precedes ended.2) : caller.Precedes (caller.take ended) := by
  refine ⟨h, List.prefix_rfl, ?_⟩
  unfold take
  dsimp only
  split
  · exact .append _ _
  · exact .refl _

theorem precedes_step (caller : Caller) (step : Step) :
    caller.Precedes (caller.step client step) := by
  have hnone : caller.Precedes caller := ⟨refl caller.run, List.prefix_rfl, .refl _⟩
  have hfresh : caller.run.Precedes { caller.run with fresh := caller.run.fresh + 1 } :=
    ⟨Int.le_refl _, List.suffix_rfl, List.prefix_rfl, List.prefix_rfl, List.suffix_rfl⟩
  cases step with
  | create => exact precedes_gain hfresh
  | fork number =>
      exact withScope_elim (P := caller.Precedes) hnone fun scope => precedes_gain hfresh
  | copy number =>
      exact withScope_elim (P := caller.Precedes) hnone fun scope => precedes_gain hnone.run
  | limit number deadline =>
      exact withScope_elim (P := caller.Precedes) hnone fun scope => precedes_gain hnone.run
  | cancel number =>
      refine withScope_elim (P := caller.Precedes) hnone fun scope =>
        ⟨?_, List.prefix_rfl, .refl _⟩
      exact (Scope.idles_cancelToken scope.token caller.run).precedes
  | pass nanos =>
      refine ⟨⟨?_, List.suffix_rfl, List.prefix_rfl, List.prefix_rfl, List.suffix_rfl⟩,
        List.prefix_rfl, .refl _⟩
      exact Int.le_add_of_nonneg_right (Int.natCast_nonneg nanos)
  | call number call =>
      exact withScope_elim (P := caller.Precedes) hnone fun scope =>
        precedes_take ((call.heedsStalls_act client scope).precedes caller.run)
  | read number way =>
      refine withDownload_elim (P := caller.Precedes) hnone fun download hd => ?_
      exact ⟨(download.idles_read way caller.run).precedes, List.prefix_rfl, .read hd way⟩

theorem precedes_play (caller : Caller) (steps : List Step) :
    caller.Precedes (caller.play client steps) := by
  unfold play
  induction steps generalizing caller with
  | nil => exact ⟨refl caller.run, List.prefix_rfl, .refl _⟩
  | cons step steps ih => exact (precedes_step client caller step).trans (ih _)

variable {client} {caller : Caller} {number : Nat} {scope : Scope} {failure : Failure}

theorem onlyTells_call (hs : caller.scopes[number]? = some scope)
    (he : scope.endedIn? caller.run = some failure) (call : Call) :
    caller.OnlyTells client (.call number call)
      (.call (.failed (call.refusal.getD failure))) := by
  obtain ⟨output, hrun⟩ := call.act_of_ended client he
  have hstep : caller.step client (.call number call) =
      caller.take (call.act client scope caller.run) := withScope_of_some hs _
  rw [hrun] at hstep
  rw [OnlyTells, hstep]
  exact ⟨rfl, output, rfl⟩

theorem onlyTells_read {download : Download}
    (hd : caller.downloads[number]? = some (some download))
    (he : download.scope.endedIn? caller.run = some failure) (way : Download.Way) :
    caller.OnlyTells client (.read number way) (.read (.ok { failure := some failure })) := by
  have hstep : caller.step client (.read number way) =
      caller.put number (download.left way) (download.read way caller.run) :=
    withDownload_of_some hd _
  rw [Download.read_of_ended he] at hstep
  rw [OnlyTells, hstep]
  exact ⟨rfl, caller.run.output, rfl⟩

theorem makes_under (hs : caller.scopes[number]? = some scope) {step : Step}
    (hstep : step = .fork number ∨ step = .copy number ∨
      ∃ deadline, step = .limit number deadline) :
    ∃ made, made.Under scope ∧ (caller.step client step).scopes = caller.scopes ++ [made] := by
  rcases hstep with rfl | rfl | ⟨deadline, rfl⟩
  · exact ⟨_, .child scope caller.run.fresh, congrArg Caller.scopes (withScope_of_some hs _)⟩
  · exact ⟨_, .refl scope, congrArg Caller.scopes (withScope_of_some hs _)⟩
  · exact ⟨_, .withDeadline scope deadline, congrArg Caller.scopes (withScope_of_some hs _)⟩

theorem opens_in (hs : caller.scopes[number]? = some scope) {call : Call} {download : Download}
    (h : (caller.step client (.call number call)).downloads =
      caller.downloads ++ [some download]) : download.scope = scope := by
  have hstep : caller.step client (.call number call) =
      caller.take (call.act client scope caller.run) := withScope_of_some hs _
  rw [hstep, take] at h
  cases ha : call.act client scope caller.run with | mk outcome after => ?_
  rw [ha] at h
  dsimp only at h
  split at h
  · obtain rfl : _ = download := by simpa using h
    exact Call.scope_of_act ha
  · simp at h

/-- What reading comes to at a piece that stalls, and that it sends nothing. -/
theorem read_stalled {download : Download} {pre post : List Piece} {piece : Piece}
    (hbody : download.response.body = pre ++ piece :: post) (hs : .stall ∈ piece.before)
    (way : Download.Way) (run : Run) :
    run.Idles (download.read way run).2 ∧
      ((∀ other, (download.withBody (pre ++ other)).read way run = download.read way run) ∨
        download.scope.GivesUp (fun _ => False) (download.read way run).1.ending
          (download.read way run).2) := by
  refine ⟨download.idles_read way run, ?_⟩
  have hsame : download.withBody (pre ++ piece :: post) = download := by
    rw [← hbody]
    rfl
  have hstops := Download.read_stall hs download way pre post run
  rw [Download.StopsAt, hsame] at hstops
  exact hstops

/-- Callers, their scopes and their downloads, after any steps and after any
more.

A scope that is cancelled has ended, and scopes that were made from it end with
it.  Once a scope has ended, a call in it or in one below it fails with the
reason for that, and so does any reading of a download that was opened there;
neither reaches the wire.  The reason is then for ever that it was cancelled,
if it was.  An operation whose request or whose body stalls does nothing more,
and ends with its scope.  Only a session that was made by hand is refused
before that, for its token. -/
theorem ended_scope_keeps_off_the_wire (client : Client) (start : Caller)
    (steps more : List Step) :
    let caller := start.play client steps
    let later := caller.play client more
    (∀ number scope, caller.scopes[number]? = some scope →
      later.scopes[number]? = some scope ∧
      scope.endedIn? (caller.step client (.cancel number)).run = some .cancelled ∧
      (∀ step, (step = .fork number ∨ step = .copy number ∨
          ∃ deadline, step = .limit number deadline) →
        ∃ made, made.Under scope ∧
          (caller.step client step).scopes = caller.scopes ++ [made]) ∧
      ∀ call download, (caller.step client (.call number call)).downloads =
        caller.downloads ++ [some download] → download.scope = scope) ∧
    KeepsScopes caller.downloads later.downloads ∧
    (∀ above failure, above.endedIn? caller.run = some failure →
      ∀ scope, scope.Under above → ∃ reason, scope.endedIn? later.run = some reason ∧
        (failure = .cancelled → reason = .cancelled) ∧
        (∀ number call, later.scopes[number]? = some scope →
          later.OnlyTells client (.call number call)
            (.call (.failed (call.refusal.getD reason)))) ∧
        ∀ number way download, later.downloads[number]? = some (some download) →
          download.scope = scope → later.OnlyTells client (.read number way)
            (.read (.ok { failure := some reason }))) ∧
    (∀ (scope : Scope) (call : Call),
      (call.act client scope).HeedsStalls scope client.wire.TimesOut) ∧
    (∀ (download : Download) way pre piece post,
      download.response.body = pre ++ piece :: post → .stall ∈ piece.before →
      caller.run.Idles (download.read way caller.run).2 ∧
        ((∀ other, (download.withBody (pre ++ other)).read way caller.run =
            download.read way caller.run) ∨
          download.scope.GivesUp (fun _ => False) (download.read way caller.run).1.ending
            (download.read way caller.run).2)) ∧
    (∀ scope repository digest download opened,
      client.download scope repository digest caller.run = (.ok download, opened) →
      Download.closeOf download.response.body = .stalls →
      let ended := (Call.document repository digest).act client scope caller.run
      opened.Idles ended.2 ∧
        (scope.GivesUp (fun _ => False) ended.1 ended.2 ∨ ∃ fault,
          Json.Decoder.Dooms (Download.arriving download.response.body) fault ∧
          ended.1 = .failed (.undecodable fault))) ∧
    (∀ (call : Call) failure, call.refusal = some failure →
      (∃ text, failure = .malformed text) ∧ ∃ session repository digest content,
        call = .finalize session repository digest content ∧
        session.authorization = .error failure) ∧
    ∀ scope repository session opened,
      client.initiate scope repository caller.run = (.ok session, opened) →
      ∀ name digest content, (Call.finalize session name digest content).refusal = none := by
  intro caller later
  have hlater : caller.Precedes later := precedes_play client caller more
  refine ⟨?_, hlater.downloads, ?_, fun scope call => call.heedsStalls_act client scope,
    fun download way pre piece post hbody hs => read_stalled hbody hs way caller.run,
    fun scope repository digest download opened h hs => Call.document_stall h hs,
    fun call failure h => Call.refusal_eq_some h,
    fun scope repository session opened h => Call.refusal_of_initiate h⟩
  · intro number scope hs
    refine ⟨?_, ?_, fun step => makes_under hs, fun call download => opens_in hs⟩
    · obtain ⟨more, hmore⟩ := hlater.scopes
      rw [← hmore]
      exact List.getElem?_append_left (List.getElem?_eq_some_iff.mp hs).1 ▸ hs
    · have hstep : (caller.step client (.cancel number)).run = (scope.cancel caller.run).2 :=
        congrArg Caller.run (withScope_of_some hs _)
      rw [hstep]
      exact scope.endedIn_cancel caller.run
  · intro above failure he scope hunder
    obtain ⟨reason, hreason, hcancelled⟩ := Scope.endedIn_of_under hunder hlater.run he
    refine ⟨reason, hreason, hcancelled, fun number call hs => onlyTells_call hs hreason call, ?_⟩
    intro number way download hd hscope
    exact onlyTells_read hd (hscope ▸ hreason) way

end Caller

end OciBlobs
