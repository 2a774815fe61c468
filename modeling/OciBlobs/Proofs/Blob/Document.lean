/-
# `Proofs.Blob.Document` — documents that are decoded while they arrive

How the octets of a document are cut into pieces makes no difference to what
is decoded, and a body that breaks off is told as such unless the octets
before were at fault whatever followed them.  Both rest on what the octets
that have arrived foretell (`Json.Decoder.brokenOff_cases`): a fault that every
continuation has, or nothing.

    closeOf, arriving   how a body closes, and the octets that arrive before
    decodeFrom_ends     how the decoder's reading of a body ends
    Tells               what the caller is told of it, and in which order
-/
import OciBlobs.Proofs.Blob.Bare
import OciBlobs.Proofs.Blob.Reading
import OciBlobs.Proofs.Json.Value

namespace OciBlobs

open Http

/-! ## What decoding is made of -/

namespace Act.Reads

variable {P : ∀ {α : Type}, Act α → Prop} (h : Reads P) {β : Type} (decoder : Json.Decoder β)
include h

theorem stopped (seen : Bytes) (failure : Failure) :
    P (Download.stopped decoder seen failure) := by
  unfold Download.stopped
  dsimp only
  split
  · split
    · exact h.fail _
    · exact h.pure _
  · exact h.fail _

theorem decodeFrom (scope : Scope) : ∀ (body : List Piece) (seen : Bytes),
    P (Download.decodeFrom decoder scope seen body)
  | [], _ => h.pure _
  | piece :: rest, seen => by
      rw [Download.decodeFrom]
      cases decoder.settled? seen with
      | some outcome => exact h.pure _
      | none =>
          refine h.bind (h.take scope piece) fun result => ?_
          cases result with
          | ok data => exact decodeFrom scope rest _
          | error failure => exact h.stopped decoder seen failure

theorem decode (download : Download) : P (download.decode decoder) :=
  h.guarded download.scope <| h.bind (h.attempt (h.decodeFrom decoder _ _ _)) fun _ =>
    h.bind (h.check _) fun _ => h.ofExcept _

end Act.Reads

/-! ## What octets foretell of a document -/

namespace Json.Decoder

/-- The fault is no early end, and every continuation of the octets has it. -/
structure Dooms (bytes : Bytes) (fault : Fault) : Prop where
  lasts : fault.cause.Lasts
  stays : ∀ more, document.ofStream (bytes ++ more) = .error fault

theorem Dooms.append {bytes : Bytes} {fault : Fault} (h : Dooms bytes fault) (more : Bytes) :
    Dooms (bytes ++ more) fault :=
  ⟨h.lasts, fun rest => by rw [List.append_assoc, h.stays]⟩

/-- The octets of a document that may go on foretell a fault, or nothing. -/
theorem brokenOff_cases (bytes : Bytes) :
    (∃ fault, document.brokenOff bytes = .error fault ∧ Dooms bytes fault) ∨
    (document.brokenOff bytes = .error ⟨.unread, none⟩ ∧ document.settled? bytes = none) := by
  have hgoes : (Cursor.mk bytes {} false false .stream .unknown).Goes := ⟨rfl, rfl, nofun⟩
  cases Reader.foretells_document (Reader.foretells_value 127 hgoes) with
  | reads _ _ _ hfalse _ => exact hfalse.elim
  | faults hnow hcause hlater =>
      exact .inl ⟨_, hnow, hcause, fun more => hlater more .closed⟩
  | runsDry hnow hdry =>
      refine .inr ⟨hnow, ?_⟩
      unfold settled?
      exact if_pos hdry

theorem settled_dooms {bytes : Bytes} {outcome : Except Fault Value}
    (h : document.settled? bytes = some outcome) :
    ∃ fault, outcome = .error fault ∧ Dooms bytes fault := by
  rcases brokenOff_cases bytes with ⟨fault, hbroken, hdooms⟩ | ⟨-, hnone⟩
  · refine ⟨fault, ?_, hdooms⟩
    unfold settled? at h
    dsimp only at h
    split at h
    · cases h
    · cases h
      exact hbroken
  · rw [hnone] at h
    cases h

end Json.Decoder

/-! ## Bodies -/

namespace Download

open Json.Decoder

/-- How a body closes. -/
inductive Close
  | ends
  /-- It breaks off. -/
  | breaks
  /-- Nothing more ever arrives. -/
  | stalls
deriving DecidableEq, Repr

/-- How a body closes: by the first piece that stalls or has no octets. -/
def closeOf : List Piece → Close
  | [] => .ends
  | piece :: rest =>
    if .stall ∈ piece.before then .stalls
    else if piece.data.isSome then closeOf rest
    else .breaks

/-- The octets of a body that arrive. -/
def arriving : List Piece → Bytes
  | [] => []
  | piece :: rest =>
    if .stall ∈ piece.before then []
    else
      match piece.data with
      | some data => data ++ arriving rest
      | none => []

/-- How taking a piece ends. -/
inductive Takes (scope : Scope) (piece : Piece) : Outcome Bytes → Run → Prop
  | data {data : Bytes} {after : Run} (hs : .stall ∉ piece.before)
      (hdata : piece.data = some data) : Takes scope piece (.ok data) after
  | broken {after : Run} (hs : .stall ∉ piece.before) (hnone : piece.data = none) :
      Takes scope piece (.failed (.exchange .answerBody)) after
  | ended {failure : Failure} {after : Run} (he : scope.endedIn? after = some failure) :
      Takes scope piece (.failed failure) after
  | endless {after : Run} (hs : .stall ∈ piece.before) (hopen : scope.endedIn? after = none)
      (hd : scope.deadline = none) : Takes scope piece .stuck after

/-- How decoding a body that follows the octets `seen` ends. -/
inductive Decodes (scope : Scope) (seen : Bytes) (body : List Piece) :
    Outcome (Except Json.Fault Json.Value) → Run → Prop
  | whole {after : Run} (hends : closeOf body = .ends) :
      Decodes scope seen body (.ok (document.ofStream (seen ++ arriving body))) after
  | doomed {fault : Json.Fault} {after : Run} (hdooms : Dooms (seen ++ arriving body) fault) :
      Decodes scope seen body (.ok (.error fault)) after
  | broken {after : Run} (hbreaks : closeOf body = .breaks) :
      Decodes scope seen body (.failed (.exchange .answerBody)) after
  | ended {failure : Failure} {after : Run} (he : scope.endedIn? after = some failure) :
      Decodes scope seen body (.failed failure) after
  | endless {after : Run} (hstalls : closeOf body = .stalls)
      (hopen : scope.endedIn? after = none) (hd : scope.deadline = none) :
      Decodes scope seen body .stuck after

variable {scope : Scope}

theorem take_ends (scope : Scope) (piece : Piece) (run : Run) :
    Takes scope piece (scope.guarded (piece.receive scope) run).1
      (scope.guarded (piece.receive scope) run).2 := by
  by_cases hs : .stall ∈ piece.before
  · have hg : scope.GivesUp _ (scope.guarded (piece.receive scope) run).1
        (scope.guarded (piece.receive scope) run).2 := guarded_stall hs run
    generalize scope.guarded (piece.receive scope) run = ended at hg ⊢
    obtain ⟨outcome, after⟩ := ended
    cases hg with
    | ended he => exact .ended he
    | late hfalse _ => exact hfalse.elim
    | endless hopen hd => exact .endless hs hopen hd
  cases he : scope.endedIn? run with
  | some failure =>
      rw [Scope.guarded_of_ended he]
      exact .ended he
  | none =>
      rw [Scope.guarded_of_open he]
      have hw := scope.await_ends none piece.before run
      have hstuck := scope.stall_of_await_stuck none piece.before run
      unfold Piece.receive
      rw [Act.bind_run]
      generalize scope.await none piece.before run = waited at hw hstuck ⊢
      obtain ⟨outcome, after⟩ := waited
      rcases hw with ⟨rfl, -⟩ | ⟨hne, hw⟩
      · cases hdata : piece.data with
        | some data => exact .data hs hdata
        | none => exact .broken hs hdata
      · cases hw with
        | waited _ => exact absurd rfl hne
        | ended he => exact .ended he
        | late hl _ => cases hl
        | endless _ _ _ => exact absurd (hstuck rfl) hs

theorem Decodes.cons {seen data : Bytes} {piece : Piece} {rest : List Piece}
    {outcome : Outcome (Except Json.Fault Json.Value)} {after : Run} (hs : .stall ∉ piece.before)
    (hdata : piece.data = some data) (h : Decodes scope (seen ++ data) rest outcome after) :
    Decodes scope seen (piece :: rest) outcome after := by
  have hclose : closeOf (piece :: rest) = closeOf rest := by
    simp [closeOf, hs, hdata]
  have harriving : seen ++ arriving (piece :: rest) = seen ++ data ++ arriving rest := by
    simp [arriving, hs, hdata]
  cases h with
  | whole hends =>
      rw [← harriving]
      exact .whole (hclose.trans hends)
  | doomed hdooms => exact .doomed (harriving ▸ hdooms)
  | broken hbreaks => exact .broken (hclose.trans hbreaks)
  | ended he => exact .ended he
  | endless hstalls hopen hd => exact .endless (hclose.trans hstalls) hopen hd

theorem stopped_cases (seen : Bytes) (failure : Failure) (run : Run) :
    (∃ fault, Dooms seen fault ∧ stopped document seen failure run = (.ok (.error fault), run)) ∨
    stopped document seen failure run = (.failed failure, run) := by
  unfold stopped
  rcases brokenOff_cases seen with ⟨fault, hbroken, hdooms⟩ | ⟨hbroken, -⟩
  · refine .inl ⟨fault, hdooms, ?_⟩
    have hcause : fault.cause ≠ .unread := by
      intro h
      exact hdooms.lasts.2 (h ▸ rfl)
    simp only [hbroken, if_neg hcause, Act.pure_run]
  · refine .inr ?_
    simp only [hbroken, if_pos]
    rfl

theorem decodeFrom_ends (scope : Scope) : ∀ (body : List Piece) (seen : Bytes) (run : Run),
    Decodes scope seen body (decodeFrom document scope seen body run).1
      (decodeFrom document scope seen body run).2 := by
  intro body
  -- on the body, for whatever octets came before it
  induction body with
  | nil =>
      intro seen run
      have hwhole : Decodes scope seen [] (.ok (document.ofStream (seen ++ arriving []))) run :=
        .whole rfl
      rwa [arriving, List.append_nil] at hwhole
  | cons piece rest ih =>
      intro seen run
      rw [decodeFrom]
      cases hsettled : document.settled? seen with
      | some outcome =>
          obtain ⟨fault, rfl, hdooms⟩ := settled_dooms hsettled
          exact .doomed (hdooms.append _)
      | none =>
          have ht := take_ends scope piece run
          dsimp only
          rw [Act.bind_run, Act.attempt_run]
          generalize scope.guarded (piece.receive scope) run = taken at ht ⊢
          obtain ⟨outcome, after⟩ := taken
          -- whatever failed, the octets before may have been at fault
          have hstop {failure : Failure}
              (h : Decodes scope seen (piece :: rest) (.failed failure) after) :
              Decodes scope seen (piece :: rest) (stopped document seen failure after).1
                (stopped document seen failure after).2 := by
            rcases stopped_cases seen failure after with ⟨fault, hdooms, hrun⟩ | hrun
            · rw [hrun]
              exact .doomed (hdooms.append _)
            · rw [hrun]
              exact h
          cases ht with
          | data hs hdata => exact .cons hs hdata (ih _ _)
          | broken hs hnone => exact hstop (.broken (by simp [closeOf, hs, hnone]))
          | ended he => exact hstop (.ended he)
          | endless hs hopen hd => exact .endless (by simp [closeOf, hs]) hopen hd

theorem Decodes.guarded {body : List Piece} {run : Run}
    (act : Act (Except Json.Fault Json.Value))
    (h : Decodes scope [] body (act run).1 (act run).2) (hsame : (act run).2 = run) :
    Decodes scope [] body (scope.guarded act run).1 (scope.guarded act run).2 ∧
      ∀ failure, scope.endedIn? (scope.guarded act run).2 = some failure →
        (scope.guarded act run).1 = .failed failure := by
  cases he : scope.endedIn? run with
  | some ended =>
      rw [Scope.guarded_of_ended he]
      refine ⟨.ended he, fun failure h => ?_⟩
      rw [he] at h
      cases h
      rfl
  | none =>
      rw [Scope.guarded_of_open he]
      refine ⟨h, fun failure hf => ?_⟩
      rw [hsame, he] at hf
      cases hf

theorem decode_ends (download : Download) (run : Run) :
    Decodes download.scope [] download.response.body (download.decode document run).1
      (download.decode document run).2 ∧
    ∀ failure, download.scope.endedIn? (download.decode document run).2 = some failure →
      (download.decode document run).1 = .failed failure := by
  unfold decode
  cases he : download.scope.endedIn? run with
  | some failure =>
      have h : Decodes download.scope [] download.response.body
          ((Act.fail failure : Act (Except Json.Fault Json.Value)) run).1 run := .ended he
      have hg := h.guarded (.fail failure) rfl
      rw [Scope.guarded_of_ended he] at hg ⊢
      exact hg
  | none =>
      have hd := decodeFrom_ends download.scope download.response.body [] run
      rw [Scope.guarded_of_open he, Act.bind_run, Act.attempt_run]
      generalize decodeFrom document download.scope [] download.response.body run = ended at hd ⊢
      obtain ⟨outcome, after⟩ := ended
      cases outcome with
      | ok result => exact hd.guarded (.ofExcept (.ok result)) rfl
      | failed failure => exact hd.guarded (.ofExcept (.error failure)) rfl
      | stuck =>
          cases hd with
          | endless hstalls hopen hdeadline =>
              refine ⟨.endless hstalls hopen hdeadline, fun failure h => ?_⟩
              rw [hopen] at h
              cases h
      | overflow => cases hd

theorem idles_decode (download : Download) : (download.decode document).Within Run.Idles :=
  Act.reads_idles.decode Json.Decoder.document download

/-! ## What the caller is told -/

/-- What the caller is told of how decoding ended. -/
def tell : Outcome (Except Json.Fault Json.Value) → Outcome Json.Value
  | .ok (.ok value) => .ok value
  | .ok (.error fault) => .failed (.undecodable fault)
  | .failed failure => .failed failure
  | .stuck => .stuck
  | .overflow => .overflow

/-- What the caller is told in a scope of a document with this body: first
that the scope has ended, then what became of the body, and only of a body that
ended as it should, what is in it. -/
structure Tells (scope : Scope) (body : List Piece) (outcome : Outcome Json.Value)
    (after : Run) : Prop where
  ended : ∀ failure, scope.endedIn? after = some failure → outcome = .failed failure
  /-- Only the octets matter, and not how they were cut into pieces. -/
  whole : scope.endedIn? after = none → closeOf body = .ends →
    outcome = tell (.ok (document.ofStream (arriving body)))
  /-- A body that breaks off is told as such, unless every continuation of it
  has the same fault; that it ended early is no such fault. -/
  broken : scope.endedIn? after = none → closeOf body = .breaks →
    outcome = .failed (.exchange .answerBody) ∨
    ∃ fault, Dooms (arriving body) fault ∧ outcome = .failed (.undecodable fault)
  stalled : scope.endedIn? after = none → closeOf body = .stalls →
    (outcome = .stuck ∧ scope.deadline = none) ∨
    ∃ fault, Dooms (arriving body) fault ∧ outcome = .failed (.undecodable fault)

theorem ofStream_of_dooms {bytes : Bytes} {fault : Json.Fault} (h : Dooms bytes fault) :
    document.ofStream bytes = .error fault := by
  have hnow := h.stays []
  rwa [List.append_nil] at hnow

theorem Decodes.tells {body : List Piece} {outcome : Outcome (Except Json.Fault Json.Value)}
    {after : Run} (h : Decodes scope [] body outcome after)
    (hended : ∀ failure, scope.endedIn? after = some failure → outcome = .failed failure) :
    Tells scope body (tell outcome) after := by
  have hfirst (failure : Failure) (he : scope.endedIn? after = some failure) :
      tell outcome = .failed failure := by
    rw [hended failure he]
    rfl
  cases h with
  | whole hends =>
      refine ⟨hfirst, fun _ _ => rfl, fun _ hc => ?_, fun _ hc => ?_⟩ <;>
        · rw [hends] at hc
          cases hc
  | @doomed fault _ hdooms =>
      have hnow : document.ofStream (arriving body) = .error fault := ofStream_of_dooms hdooms
      refine ⟨hfirst, fun _ _ => ?_, fun _ _ => .inr ⟨fault, hdooms, rfl⟩,
        fun _ _ => .inr ⟨fault, hdooms, rfl⟩⟩
      rw [hnow]
  | broken hbreaks =>
      refine ⟨hfirst, fun _ hc => ?_, fun _ _ => .inl rfl, fun _ hc => ?_⟩ <;>
        · rw [hbreaks] at hc
          cases hc
  | ended he =>
      refine ⟨hfirst, fun ho _ => ?_, fun ho _ => ?_, fun ho _ => ?_⟩ <;>
        · rw [he] at ho
          cases ho
  | endless hstalls _ hd =>
      refine ⟨hfirst, fun _ hc => ?_, fun _ hc => ?_, fun _ _ => .inl ⟨rfl, hd⟩⟩ <;>
        · rw [hstalls] at hc
          cases hc

theorem Tells.withOutput {body : List Piece} {outcome : Outcome Json.Value} {after : Run}
    (h : Tells scope body outcome after) (output : List Output) :
    Tells scope body outcome (after.withOutput output) :=
  ⟨h.ended, h.whole, h.broken, h.stalled⟩

end Download

/-! ## The operation -/

namespace Client

open Download

variable {client : Client} {scope : Scope} {repository : String} {digest : Digest}
  {run opened : Run}

theorem scope_of_download {download : Download}
    (h : client.download scope repository digest run = (.ok download, opened)) :
    download.scope = scope := by
  obtain ⟨last, hlast, -⟩ := (client.annotates_download scope repository digest).ok h
  obtain ⟨response, mid, -, hpure⟩ := Act.bind_eq_ok hlast
  cases hpure
  rfl

theorem download_of_answer {spent : Failure} (hw : client.wire = .direct spent)
    (hopen : scope.endedIn? run = none) {answer : Answer} {url : Option Url}
    {rest : List Reply} (hr : run.replies = { ending := .answer answer url } :: rest) :
    ∃ download opened, client.download scope repository digest run = (.ok download, opened) ∧
      download.response.body = answer.body := by
  obtain ⟨output, hrun⟩ := client.annotates_download scope repository digest run
  let request := client.blobRequest repository digest .get
  have hsend : client.wire.send scope request run =
      (.ok { answer with url := url.getD request.url },
        (run.handing request).taking request) := by
    rw [Wire.send_of_open hopen, hw]
    unfold Wire.carry Wire.sendDirect
    dsimp only
    rw [Act.bind_ok (Act.deliver_run rfl ..)]
    simp only [Run.handing, hr]
    rfl
  rw [Act.bind_ok hsend] at hrun
  exact ⟨_, _, hrun, rfl⟩

/-- Once the body was opened, the operation tells what decoding it came to. -/
theorem document_run {download : Download}
    (h : client.download scope repository digest run = (.ok download, opened)) :
    ∃ output, client.document .document scope repository digest run =
      (tell (download.decode .document opened).1,
        (download.decode .document opened).2.withOutput output) := by
  unfold document
  rw [Act.bind_ok h, Act.bind_run]
  rcases download.decode .document opened with ⟨(_ | _) | _ | _ | _, after⟩
  · exact ⟨_, rfl⟩
  all_goals exact ⟨after.output, rfl⟩

theorem tells_document {download : Download}
    (h : client.download scope repository digest run = (.ok download, opened)) :
    Tells scope download.response.body
      (client.document .document scope repository digest run).1
      (client.document .document scope repository digest run).2 := by
  obtain ⟨output, hrun⟩ := document_run h
  obtain ⟨hdecodes, hended⟩ := decode_ends download opened
  rw [scope_of_download h] at hdecodes hended
  rw [hrun]
  exact (hdecodes.tells hended).withOutput output

/-- A document whose body cannot be opened fails as that did.  Otherwise the
caller is told what became of the scope, of the body and of what is in it, in
this order, and however the body was cut into pieces.  Over a direct wire, any
body of any answer is opened. -/
theorem document_tells_scope_then_body_then_content (client : Client) (scope : Scope)
    (repository : String) (digest : Digest) (run : Run) :
    (∀ failure opened,
      client.download scope repository digest run = (.failed failure, opened) →
      client.document .document scope repository digest run = (.failed failure, opened)) ∧
    (∀ download opened,
      client.download scope repository digest run = (.ok download, opened) →
      Tells scope download.response.body
        (client.document .document scope repository digest run).1
        (client.document .document scope repository digest run).2) ∧
    (∀ spent answer url rest, client.wire = .direct spent → scope.endedIn? run = none →
      run.replies = { ending := .answer answer url } :: rest →
      ∃ download opened,
        client.download scope repository digest run = (.ok download, opened) ∧
        download.response.body = answer.body) :=
  ⟨fun _ _ h => Act.bind_failed h _, fun _ _ h => tells_document h,
    fun _ _ _ _ hw hopen hr => download_of_answer hw hopen hr⟩

end Client

end OciBlobs
