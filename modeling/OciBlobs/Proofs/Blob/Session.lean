/-
# `Proofs.Blob.Session` — the session that an answer opens

An answer opens a session if it says success and names a place that can be
read and reached (`Http.Response.LeadsTo`); any other answer that says success
is malformed.  A session that an answer opened can always be closed: its token
was read from a header, so it can be put into one again
(`closingRequest_of_answer`).
-/
import OciBlobs.Blob.Upload
import OciBlobs.Proofs.Http.Header

namespace OciBlobs

open Http

/-! ## The place -/

/-- An answer says success, and its first location is readable, not blank,
and leads from the answer's own URL to a place. -/
def Http.Response.LeadsTo (response : Response) (location : Url) : Prop :=
  response.status.isSuccess = true ∧ ∃ value text,
    Header.first? response.headers locationName = some value ∧
    Header.text? value = some text ∧ text.toList.all Text.isBlank = false ∧
    response.url.join text = .ok location

theorem Registry.resolveLocation_eq_ok {request location : Url} {text : String} :
    resolveLocation request text = .ok location ↔
      text.toList.all Text.isBlank = false ∧ request.join text = .ok location := by
  unfold resolveLocation
  cases text.toList.all Text.isBlank with
  | true => simp
  | false => cases request.join text <;> simp

theorem Registry.resolveLocation_eq_error {request : Url} {text : String} {failure : Failure}
    (h : resolveLocation request text = .error failure) : ∃ cause, failure = .malformed cause := by
  unfold resolveLocation at h
  split at h
  · cases h
    exact ⟨_, rfl⟩
  · split at h
    · cases h
    · cases h
      exact ⟨_, rfl⟩

namespace UploadSession

variable {response : Response} {location : Url}

theorem locationOf_eq_ok :
    locationOf response = .ok location ↔ ∃ value text,
      Header.first? response.headers locationName = some value ∧
      Header.text? value = some text ∧
      Registry.resolveLocation response.url text = .ok location := by
  unfold locationOf
  cases Header.first? response.headers locationName with
  | none => simp
  | some value => cases ht : Header.text? value <;> simp [ht]

theorem leadsTo_iff :
    response.LeadsTo location ↔
      response.status.isSuccess = true ∧ locationOf response = .ok location := by
  simp only [Response.LeadsTo, locationOf_eq_ok, Registry.resolveLocation_eq_ok]

theorem locationOf_eq_error {failure : Failure} (h : locationOf response = .error failure) :
    ∃ cause, failure = .malformed cause := by
  unfold locationOf at h
  split at h
  · cases h
    exact ⟨_, rfl⟩
  · split at h
    · cases h
      exact ⟨_, rfl⟩
    · exact Registry.resolveLocation_eq_error h

theorem not_leadsTo {failure : Failure} (h : locationOf response = .error failure) :
    ¬response.LeadsTo location := by
  rw [leadsTo_iff, h]
  nofun

theorem leadsTo_unique {other : Url} (h : response.LeadsTo location)
    (h' : response.LeadsTo other) : location = other := by
  rw [leadsTo_iff] at h h'
  exact Except.ok.inj (h.2.symm.trans h'.2)

/-! ## The token -/

/-- The octets of the token in an answer: none if it has no such header, or
if that cannot be read. -/
def tokenOctets (tokenHeader : String) (answer : Answer) : Bytes :=
  match Header.first? answer.headers tokenHeader with
  | some value => if (Header.text? value).isSome then value else []
  | none => []

def bearer : Bytes := Bytes.ofAscii "Bearer "

def closing (tokenHeader : String) (answer : Answer) (location : Url) (digest : Digest)
    (content : Content) : Request where
  method := .put
  url := Registry.withDigest location digest
  headers := [⟨contentTypeName, Bytes.ofAscii "application/octet-stream"⟩,
    ⟨authorizationName, bearer ++ tokenOctets tokenHeader answer⟩]
  body := some content

theorem value_tokenOf (tokenHeader : String) (answer : Answer) :
    Header.value? ("Bearer " ++ tokenOf tokenHeader answer) =
      some (bearer ++ tokenOctets tokenHeader answer) := by
  have hlead : (Utf8.ofString "Bearer ").all Header.isValueByte = true := by decide
  have hempty : Header.text? [] = some "" := by decide
  rw [show bearer = Utf8.ofString "Bearer " by decide]
  unfold tokenOf tokenOctets
  cases Header.first? answer.headers tokenHeader with
  | none => exact Header.value_of_text hempty hlead
  | some value =>
      cases ht : Header.text? value with
      | none => simpa [ht] using Header.value_of_text hempty hlead
      | some text => simpa [ht] using Header.value_of_text ht hlead

theorem closingRequest_of_answer (tokenHeader : String) (answer : Answer) (location : Url)
    (digest : Digest) (content : Content) :
    (UploadSession.mk location (tokenOf tokenHeader answer)).closingRequest digest content =
      .ok (closing tokenHeader answer location digest content) := by
  unfold closingRequest authorization
  rw [value_tokenOf]
  rfl

end UploadSession

/-! ## The session -/

namespace Client

variable {client : Client} {response : Response}

/-- What an answer to an opening request comes to. -/
def sessionOf (client : Client) (response : Response) : Except Failure UploadSession :=
  response.success >>= UploadSession.ofResponse client.tokenHeader

theorem sessionOf_of_refused (h : response.status.isSuccess = false) :
    client.sessionOf response = .error (.status response.status response.url.text) := by
  unfold sessionOf Response.success
  rw [if_neg (by simp [h])]
  rfl

theorem sessionOf_of_success (h : response.status.isSuccess = true) :
    client.sessionOf response = (UploadSession.locationOf response).map fun location =>
      { location, token := UploadSession.tokenOf client.tokenHeader response.toAnswer } := by
  unfold sessionOf Response.success
  rw [if_pos h]
  show (UploadSession.locationOf response >>= _) = _
  cases UploadSession.locationOf response <;> rfl

theorem sessionOf_eq_ok {session : UploadSession} :
    client.sessionOf response = .ok session ↔
      response.LeadsTo session.location ∧
        session.token = UploadSession.tokenOf client.tokenHeader response.toAnswer := by
  rw [UploadSession.leadsTo_iff]
  cases hs : response.status.isSuccess with
  | false => simp [sessionOf_of_refused hs]
  | true =>
      rw [sessionOf_of_success hs]
      cases UploadSession.locationOf response with
      | error failure => simp [Except.map]
      | ok location =>
          cases session
          simp [Except.map, eq_comm]

/-- A session is closed by the request that the answer that opened it calls
for. -/
theorem closingRequest_of_sessionOf {session : UploadSession}
    (h : client.sessionOf response = .ok session) (digest : Digest) (content : Content) :
    session.closingRequest digest content =
      .ok (UploadSession.closing client.tokenHeader response.toAnswer session.location digest
        content) := by
  obtain ⟨-, ht⟩ := sessionOf_eq_ok.mp h
  rw [← UploadSession.closingRequest_of_answer, ← ht]

theorem sessionOf_eq_error {failure : Failure} (h : client.sessionOf response = .error failure) :
    (response.status.isSuccess = false ∧
      failure = .status response.status response.url.text) ∨
    (response.status.isSuccess = true ∧ UploadSession.locationOf response = .error failure) := by
  cases hs : response.status.isSuccess with
  | false =>
      rw [sessionOf_of_refused hs] at h
      cases h
      exact .inl ⟨rfl, rfl⟩
  | true =>
      rw [sessionOf_of_success hs] at h
      cases hl : UploadSession.locationOf response with
      | ok location => simp [hl, Except.map] at h
      | error cause =>
          rw [hl] at h
          cases h
          exact .inr ⟨rfl, rfl⟩

end Client

end OciBlobs
