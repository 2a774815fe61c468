/-
# `Proofs.Caller.Credentials` — where credentials can get to

A client asks for blobs and opens uploads at its own registry, without
credentials of its own, and closes uploads wherever it was told to, with the
token of the session (`Client.Asks`).  So an exchange puts its credentials on
requests to the registry only.  Two clients that differ in credentials do the
same, step by step, and nothing that they tell, put out or send but these shows
which of them it was (`credentials_stay_with_registry`).

    Client.Asks           the requests of a client
    Client.mirrors_*      one operation, with other credentials
    Caller.Parallel       two callers, step by step
-/
import OciBlobs.Proofs.Caller
import OciBlobs.Proofs.Client
import OciBlobs.Proofs.Registry.Address

namespace OciBlobs

open Http

/-! ## The requests of a client -/

namespace Client

/-- The same client over an HTTP exchange. -/
def through (client : Client) (exchange : Exchange) : Client :=
  { client with wire := .http exchange }

/-- The requests of a client that closes sessions as `known` says. -/
inductive Asks (client : Client) (known : UploadSession → Prop) : Request → Prop
  | blob {method : Method} (h : method = .get ∨ method = .head) (repository : String)
    (digest : Digest) : Asks client known (client.blobRequest repository digest method)
  | opening (repository : String) : Asks client known (client.openingRequest repository)
  | closing {session : UploadSession} {digest : Digest} {content : Content} {request : Request}
    (h : known session) (hr : session.closingRequest digest content = .ok request) :
    Asks client known request

end Client

/-- A request goes to a registry, or it closes an upload with the token of a
session and no other credentials. -/
structure Http.Request.Confined (base : Url) (known : UploadSession → Prop)
    (request : Request) : Prop where
  registry : request.method ≠ .put → Url.SameServer request.url base
  session : request.method = .put → ∃ session digest, known session ∧
    { request.url with fragment := none } =
      { Registry.withDigest session.location digest with fragment := none } ∧
    (request.headers.filter fun header => header.name == authorizationName) =
      [⟨authorizationName, Utf8.ofString ("Bearer " ++ session.token)⟩]

namespace UploadSession

variable {session : UploadSession} {digest : Digest} {content : Content} {request : Request}

/-- The headers of a closing request are the type of its content and the token. -/
theorem closingRequest_eq_ok (h : session.closingRequest digest content = .ok request) :
    request = {
      method := .put
      url := Registry.withDigest session.location digest
      headers := [contentType, ⟨authorizationName, Utf8.ofString ("Bearer " ++ session.token)⟩]
      body := some content } := by
  cases hvalue : Header.value? ("Bearer " ++ session.token) with
  | none =>
      unfold closingRequest authorization at h
      rw [hvalue] at h
      cases h
  | some value =>
      unfold closingRequest authorization at h
      rw [hvalue] at h
      cases h
      rw [Header.eq_of_value hvalue]

end UploadSession

namespace Client.Asks

variable {client : Client} {known : UploadSession → Prop} {request : Request}

/-- Only closing requests have credentials of their own, and they have a token. -/
theorem own_credentials (h : client.Asks known request) (hput : request.method = .put) :
    (Header.first? request.headers authorizationName).isSome = true := by
  cases h with
  | blob hmethod => rcases hmethod with rfl | rfl <;> cases hput
  | opening => cases hput
  | closing _ hr =>
      rw [UploadSession.closingRequest_eq_ok hr]
      rfl

theorem confined_dress (h : client.Asks known request) (exchange : Exchange) :
    (exchange.dress request).Confined client.address.base known := by
  refine ⟨fun hmethod => ?_, fun hput => ?_⟩
  · cases h with
    | blob => exact ⟨rfl, rfl, rfl, rfl, rfl⟩
    | opening => exact ⟨rfl, rfl, rfl, rfl, rfl⟩
    | closing _ hr =>
        rw [UploadSession.closingRequest_eq_ok hr] at hmethod
        exact absurd rfl hmethod
  · have hown := h.own_credentials hput
    cases h with
    | blob hmethod => rcases hmethod with rfl | rfl <;> cases hput
    | opening => cases hput
    | @closing session digest content _ hknown hr =>
        refine ⟨session, digest, hknown, ?_, ?_⟩
        · rw [UploadSession.closingRequest_eq_ok hr]
          rfl
        · rw [Exchange.dress_headers, Header.missing_of_first hown, List.append_nil,
            List.filter_append, Header.filter_missing_of_ne (by decide), List.append_nil,
            UploadSession.closingRequest_eq_ok hr]
          rfl

theorem confined_onWire {base : Url} (h : request.Confined base known) :
    (Exchange.onWire request).Confined base known :=
  ⟨fun hmethod =>
      let same := h.registry hmethod
      ⟨same.scheme, same.username, same.password, same.host, same.port⟩,
    fun hput => h.session hput⟩

end Client.Asks

/-! ## One operation with other credentials -/

namespace Client

variable {client : Client} {exchange : Exchange} {credentials : Option Bytes}
  {known : UploadSession → Prop} {start : Run} {scope : Scope} {repository : String}
  {digest : Digest}

/-- Two runs of a client with different credentials. -/
abbrev Beside (client : Client) (exchange : Exchange) (credentials : Option Bytes)
    (known : UploadSession → Prop) (start : Run) : Run → Run → Prop :=
  Run.Parallel exchange credentials (client.Asks known) start

theorem mirrors_note (logger : Log.Logger) (note : Log.Note) :
    Act.Mirrors (client.Beside exchange credentials known start) (.note logger note)
      (.note logger note) :=
  .change fun _ _ h => h.change
    (f := fun run => { run with output := run.output ++ logger.render note })
    (fun _ _ => rfl) (fun _ => rfl) fun _ => rfl

section
variable (hr : ∀ reply ∈ start.replies, ¬reply.Redirects)
include hr

theorem mirrors_send {request : Request} (ha : client.Asks known request) :
    Act.Mirrors (client.Beside exchange credentials known start)
      ((client.through exchange).wire.send scope request)
      ((client.through (exchange.withCredentials credentials)).wire.send scope request) :=
  Wire.mirrors_send hr ha

theorem mirrors_sendForSuccess {request : Request} (ha : client.Asks known request) :
    Act.Mirrors (client.Beside exchange credentials known start)
      ((client.through exchange).wire.sendForSuccess scope request)
      ((client.through (exchange.withCredentials credentials)).wire.sendForSuccess scope request) :=
  .bind (mirrors_send hr ha) fun _ => .ofExcept _

theorem mirrors_holds :
    Act.Mirrors (client.Beside exchange credentials known start)
      ((client.through exchange).holds scope repository digest)
      ((client.through (exchange.withCredentials credentials)).holds scope repository digest) := by
  have hask : client.Asks known (client.blobRequest repository digest .head) :=
    .blob (.inr rfl) repository digest
  refine .bind (mirrors_note _ _) fun _ => .bind (mirrors_sendForSuccess hr hask).attempt
    fun result => ?_
  cases result with
  | ok response => exact .bind (mirrors_note _ _) fun _ => .pure _
  | error failure =>
      refine .ite ?_ ?_
      · exact .bind (mirrors_note _ _) fun _ => .pure _
      · exact .bind (mirrors_note _ _) fun _ => .fail _

theorem mirrors_download :
    Act.Mirrors (client.Beside exchange credentials known start)
      ((client.through exchange).download scope repository digest)
      ((client.through (exchange.withCredentials credentials)).download scope repository
        digest) := by
  have hask : client.Asks known (client.blobRequest repository digest .get) :=
    .blob (.inl rfl) repository digest
  refine .bind (mirrors_note _ _) fun _ =>
    .bind ((mirrors_send hr hask).onFailure fun _ => mirrors_note _ _) fun response => ?_
  refine .ite ?_ ?_
  · exact .pure _
  · exact .bind (mirrors_note _ _) fun _ => .pure _

theorem mirrors_document (decoder : Json.Decoder Json.Value) :
    Act.Mirrors (client.Beside exchange credentials known start)
      ((client.through exchange).document decoder scope repository digest)
      ((client.through (exchange.withCredentials credentials)).document decoder scope repository
        digest) := by
  refine .bind (mirrors_download hr) fun download => .bind ?_ fun result => ?_
  · exact (Act.reads_mirrors Run.Parallel.timed).decode decoder download
  · cases result with
    | ok value => exact .pure _
    | error fault => exact .bind (mirrors_note _ _) fun _ => .fail _

theorem mirrors_initiate :
    Act.Mirrors (client.Beside exchange credentials known start)
      ((client.through exchange).initiate scope repository)
      ((client.through (exchange.withCredentials credentials)).initiate scope repository) := by
  have hask : client.Asks known (client.openingRequest repository) := .opening repository
  refine .bind (mirrors_note _ _) fun _ =>
    .bind ((mirrors_sendForSuccess hr hask).onFailure fun _ => mirrors_note _ _) fun response =>
    .bind (.ofExcept _) fun session => ?_
  exact .bind (mirrors_note _ _) fun _ => .pure _

theorem mirrors_finalize {session : UploadSession} (hk : known session) (content : Content) :
    Act.Mirrors (client.Beside exchange credentials known start)
      ((client.through exchange).finalize scope session repository digest content)
      ((client.through (exchange.withCredentials credentials)).finalize scope session repository
        digest content) := by
  refine .bind (mirrors_note _ _) fun _ => .bind_run (.ofExcept _) fun run _ request after _ h => ?_
  have hask : client.Asks known request := .closing hk (Act.ofExcept_eq_ok h)
  refine .bind ((mirrors_send hr hask).onFailure fun _ => mirrors_note _ _) fun response => ?_
  exact .ite (mirrors_note _ _) (mirrors_note _ _)

/-- A session that was opened is one that an answer of the script opens. -/
theorem ofResponse_of_initiate {run after : Run} (hs : run.replies <:+ start.replies)
    {session : UploadSession}
    (h : (client.through exchange).initiate scope repository run = (.ok session, after)) :
    ∃ reply ∈ start.replies, ∃ answer url, reply.ending = .answer answer url ∧
      UploadSession.ofResponse client.tokenHeader
        { answer with url := client.address.uploads repository } = .ok session := by
  obtain ⟨response, hopened, hsession⟩ := initiate_ok h
  obtain ⟨reply, hm, answer, url, hend, rfl⟩ :=
    Wire.send_ok (fun reply hm => hr reply (hs.subset hm)) (Prod.ext hopened rfl)
  refine ⟨reply, hs.subset hm, answer, url, hend, ?_⟩
  unfold sessionOf Response.success at hsession
  split at hsession
  · exact hsession
  · cases hsession

end

/-- No answer of the script redirects, and the sessions that they open are known. -/
structure Foresees (client : Client) (known : UploadSession → Prop) (replies : List Reply) :
    Prop where
  stays : ∀ reply ∈ replies, ¬reply.Redirects
  knows : ∀ reply ∈ replies, ∀ answer url, reply.ending = .answer answer url →
    ∀ repository session, UploadSession.ofResponse client.tokenHeader
      { answer with url := client.address.uploads repository } = .ok session → known session

theorem mirrors_upload (hf : client.Foresees known start.replies) (content : Content) :
    Act.Mirrors (client.Beside exchange credentials known start)
      ((client.through exchange).upload scope repository digest content)
      ((client.through (exchange.withCredentials credentials)).upload scope repository digest
        content) := by
  refine .bind_run (mirrors_initiate hf.stays) fun run _ session after hab h => ?_
  obtain ⟨reply, hm, answer, url, hend, hsession⟩ :=
    ofResponse_of_initiate hf.stays hab.replies h
  have hknown := hf.knows reply hm answer url hend repository session hsession
  exact mirrors_finalize hf.stays hknown content

theorem mirrors_act (hf : client.Foresees known start.replies) (call : Call)
    (hnamed : ∀ session repository digest content,
      call = .finalize session repository digest content → known session) :
    Act.Mirrors (client.Beside exchange credentials known start)
      (call.act (client.through exchange) scope)
      (call.act (client.through (exchange.withCredentials credentials)) scope) := by
  cases call with
  | holds repository digest => exact (mirrors_holds hf.stays).map _
  | download repository digest => exact (mirrors_download hf.stays).map _
  | document repository digest => exact (mirrors_document hf.stays _).map _
  | initiate repository => exact (mirrors_initiate hf.stays).map _
  | finalize session repository digest content =>
      exact (mirrors_finalize hf.stays (hnamed _ _ _ _ rfl) content).map _
  | upload repository digest content => exact (mirrors_upload hf content).map _
  | uploadReads repository digest reads => exact (mirrors_upload hf _).map _

end Client

/-! ## Two callers -/

namespace Caller

/-- Two callers that have been told the same and have the same, in related
states. -/
structure Parallel (S : Run → Run → Prop) (a b : Caller) : Prop where
  run : S a.run b.run
  same : b = { a with run := b.run }

variable {S : Run → Run → Prop} {a b : Caller}

namespace Parallel

theorem withRun (h : Parallel S a b) {after otherAfter : Run} (hs : S after otherAfter) :
    Parallel S { a with run := after } { b with run := otherAfter } :=
  ⟨hs, by rw [h.same]⟩

theorem gain (h : Parallel S a b) {act other : Act Scope} (hm : Act.Mirrors S act other) :
    Parallel S (a.gain (act a.run)) (b.gain (other b.run)) := by
  obtain ⟨ho, hs⟩ := hm a.run b.run h.run
  refine ⟨hs, ?_⟩
  rw [Caller.gain, ← ho, h.same]
  rfl

theorem take (h : Parallel S a b) {act other : Act Result} (hm : Act.Mirrors S act other) :
    Parallel S (a.take (act a.run)) (b.take (other b.run)) := by
  obtain ⟨ho, hs⟩ := hm a.run b.run h.run
  refine ⟨hs, ?_⟩
  rw [Caller.take, ← ho, h.same]
  rfl

theorem put (h : Parallel S a b) (number : Nat) (left : Option Download)
    {act other : Act Reading} (hm : Act.Mirrors S act other) :
    Parallel S (a.put number left (act a.run)) (b.put number left (other b.run)) := by
  obtain ⟨ho, hs⟩ := hm a.run b.run h.run
  refine ⟨hs, ?_⟩
  rw [Caller.put, ← ho, h.same]
  rfl

theorem withScope (h : Parallel S a b) (number : Nat) {next otherNext : Scope → Caller}
    (hn : ∀ scope, Parallel S (next scope) (otherNext scope)) :
    Parallel S (a.withScope number next) (b.withScope number otherNext) := by
  have hscopes : b.scopes = a.scopes := by rw [h.same]
  unfold Caller.withScope
  rw [hscopes]
  split
  · exact hn _
  · exact h

theorem withDownload (h : Parallel S a b) (number : Nat) {next otherNext : Download → Caller}
    (hn : ∀ download, Parallel S (next download) (otherNext download)) :
    Parallel S (a.withDownload number next) (b.withDownload number otherNext) := by
  have hdownloads : b.downloads = a.downloads := by rw [h.same]
  unfold Caller.withDownload
  rw [hdownloads]
  split
  · exact hn _
  · exact h

end Parallel

section
variable {client : Client} {exchange : Exchange} {credentials : Option Bytes}
  {known : UploadSession → Prop} {start : Run}

theorem mirrors_fresh (next : Nat → Scope) :
    Act.Mirrors (client.Beside exchange credentials known start)
      (fun run => (.ok (next run.fresh), { run with fresh := run.fresh + 1 }))
      (fun run => (.ok (next run.fresh), { run with fresh := run.fresh + 1 })) := by
  intro a b h
  have hfresh : a.fresh = b.fresh := by rw [h.same]
  refine ⟨congrArg (fun fresh => Outcome.ok (next fresh)) hfresh, ?_⟩
  exact h.change (f := fun run => { run with fresh := run.fresh + 1 }) (fun _ _ => rfl)
    (fun _ => rfl) fun _ => rfl

theorem mirrors_create :
    Act.Mirrors (client.Beside exchange credentials known start) Scope.create Scope.create :=
  mirrors_fresh fun number => { token := [number] }

theorem mirrors_fork (scope : Scope) :
    Act.Mirrors (client.Beside exchange credentials known start) scope.fork scope.fork :=
  mirrors_fresh scope.child

theorem parallel_step (hf : client.Foresees known start.replies) (step : Step)
    (hnamed : ∀ number session repository digest content,
      step = .call number (.finalize session repository digest content) → known session)
    (h : Parallel (client.Beside exchange credentials known start) a b) :
    Parallel (client.Beside exchange credentials known start)
      (a.step (client.through exchange) step)
      (b.step (client.through (exchange.withCredentials credentials)) step) := by
  cases step with
  | create => exact h.gain mirrors_create
  | fork number => exact h.withScope number fun scope => h.gain (mirrors_fork scope)
  | copy number => exact h.withScope number fun scope => h.gain (.pure scope)
  | limit number deadline =>
      exact h.withScope number fun scope => h.gain (.pure (scope.withDeadline deadline))
  | cancel number =>
      exact h.withScope number fun scope =>
        h.withRun (Run.Parallel.timed.cancel scope.token h.run)
  | pass nanos =>
      exact h.withRun (h.run.change (f := fun run => { run with now := run.now + nanos })
        (fun _ _ => rfl) (fun _ => rfl) fun _ => rfl)
  | call number call =>
      refine h.withScope number fun scope => h.take (Client.mirrors_act hf call ?_)
      rintro session repository digest content rfl
      exact hnamed number session repository digest content rfl
  | read number way =>
      exact h.withDownload number fun download =>
        h.put number _ ((Act.reads_mirrors Run.Parallel.timed).read download way)

theorem parallel_play (hf : client.Foresees known start.replies) (steps : List Step)
    (hnamed : ∀ number session repository digest content,
      .call number (.finalize session repository digest content) ∈ steps → known session)
    (h : Parallel (client.Beside exchange credentials known start) a b) :
    Parallel (client.Beside exchange credentials known start)
      (a.play (client.through exchange) steps)
      (b.play (client.through (exchange.withCredentials credentials)) steps) := by
  unfold play
  induction steps generalizing a b with
  | nil => exact h
  | cons step steps ih =>
      refine ih (fun number session repository digest content hm => ?_) ?_
      · exact hnamed number session repository digest content (List.mem_cons_of_mem _ hm)
      · refine parallel_step hf step (fun number session repository digest content he => ?_) h
        exact hnamed number session repository digest content (he ▸ List.mem_cons_self)

end

/-! ## Two clients that differ in credentials -/

/-- The sessions that a caller can close: those that it names itself, and those
that an answer of the script opens. -/
inductive Arises (client : Client) (replies : List Reply) (steps : List Step) :
    UploadSession → Prop
  | named {number : Nat} {session : UploadSession} {repository : String} {digest : Digest}
    {content : Content}
    (h : .call number (.finalize session repository digest content) ∈ steps) :
    Arises client replies steps session
  | opened {reply : Reply} {answer : Answer} {url : Option Url} {repository : String}
    {session : UploadSession} (hm : reply ∈ replies) (hend : reply.ending = .answer answer url)
    (h : UploadSession.ofResponse client.tokenHeader
      { answer with url := client.address.uploads repository } = .ok session) :
    Arises client replies steps session

/-- Two callers have been told the same, put out the same and done the same.  The
requests that their exchanges were given since the start, with the credentials of
each, and those that came through, differ in credentials only; each of them goes
to the registry, or closes a session with its token. -/
structure DifferInCredentials (mine theirs : Exchange) (base : Url)
    (known : UploadSession → Prop) (start ended other : Caller) : Prop where
  told : other.told = ended.told
  output : other.run.output = ended.run.output
  rest : other = { ended with run := { ended.run with sent := other.run.sent } }
  requests : ∃ handed sent otherSent,
    ended.run.handed = start.run.handed ++ handed ∧
    other.run.handed = start.run.handed ++ handed ∧
    ended.run.sent = start.run.sent ++ sent ∧
    other.run.sent = start.run.sent ++ otherSent ∧
    List.Forall₂ Request.SameButCredentials (handed.map mine.dress) (handed.map theirs.dress) ∧
    List.Forall₂ Request.SameButCredentials sent otherSent ∧
    ∀ request ∈ handed.map mine.dress ++ handed.map theirs.dress ++ sent ++ otherSent,
      request.Confined base known

variable {client other : Client} {exchange : Exchange} {credentials : Option Bytes}
  {known : UploadSession → Prop} {start : Caller}

/-- Clients with different credentials have exchanges that differ in these only. -/
theorem over_of_ofSettings {settings : Settings} {mine theirs : Credentials} {reaches : Url → Bool}
    {logger : Option Log.Logger}
    (hc : Client.ofSettings { settings with credentials := mine } reaches logger = .ok client)
    (ho : Client.ofSettings { settings with credentials := theirs } reaches logger = .ok other) :
    ∃ exchange credentials, client = client.through exchange ∧
      other = client.through (exchange.withCredentials credentials) := by
  obtain ⟨address, tokenHeader, userAgent, _, ha, hn, hu, -, rfl⟩ := Client.ofSettings_eq_ok.mp hc
  obtain ⟨_, _, _, authorization, ha', hn', hu', -, rfl⟩ := Client.ofSettings_eq_ok.mp ho
  cases ha.symm.trans ha'
  cases hn.symm.trans hn'
  cases hu.symm.trans hu'
  exact ⟨_, authorization, rfl, rfl⟩

/-- What is the same in callers side by side, and what their requests differ in. -/
theorem differInCredentials
    (h : Parallel (client.Beside exchange credentials known start.run) a b) :
    DifferInCredentials exchange (exchange.withCredentials credentials) client.address.base known
      start a b := by
  have hrun := h.run.same
  obtain ⟨handed, hasked, hhanded⟩ := h.run.handed
  obtain ⟨given, hgiven, hsent, hother⟩ := h.run.sent
  have hdress (requests : List Request) (hr : ∀ request ∈ requests, client.Asks known request) :
      List.Forall₂ Request.SameButCredentials (requests.map exchange.dress)
        (requests.map (exchange.withCredentials credentials).dress) := by
    rw [List.forall₂_map_left_iff, List.forall₂_map_right_iff, List.forall₂_same]
    exact fun request hm => exchange.same_dress credentials (hr request hm).own_credentials
  refine ⟨by rw [h.same], by rw [hrun], by rw [h.same, ← hrun], handed,
    exchange.carried given, (exchange.withCredentials credentials).carried given, hhanded, ?_,
    hsent, hother, hdress handed hasked, ?_, ?_⟩
  · rw [hrun]
    exact hhanded
  · unfold Exchange.carried
    rw [List.forall₂_map_left_iff, List.forall₂_map_right_iff, List.forall₂_same]
    exact fun request hm =>
      (exchange.same_dress credentials (hgiven request hm).own_credentials).onWire
  · intro request hm
    simp only [List.mem_append, List.mem_map, Exchange.carried] at hm
    rcases hm with ((⟨asked, hm, rfl⟩ | ⟨asked, hm, rfl⟩) | ⟨asked, hm, rfl⟩) | ⟨asked, hm, rfl⟩
    · exact (hasked asked hm).confined_dress _
    · exact (hasked asked hm).confined_dress _
    · exact Client.Asks.confined_onWire ((hgiven asked hm).confined_dress _)
    · exact Client.Asks.confined_onWire ((hgiven asked hm).confined_dress _)

/-- Whatever a caller does with a client, other credentials show in nothing but
the requests to the registry, as long as no answer redirects. -/
theorem credentials_stay_with_registry {settings : Settings} {mine theirs : Credentials}
    {reaches : Url → Bool} {logger : Option Log.Logger}
    (hc : Client.ofSettings { settings with credentials := mine } reaches logger = .ok client)
    (ho : Client.ofSettings { settings with credentials := theirs } reaches logger = .ok other)
    (start : Caller) (hr : ∀ reply ∈ start.run.replies, ¬reply.Redirects) (steps : List Step) :
    ∃ exchange otherExchange, client.wire = .http exchange ∧ other.wire = .http otherExchange ∧
      DifferInCredentials exchange otherExchange client.address.base
        (Arises client start.run.replies steps) start (start.play client steps)
        (start.play other steps) := by
  obtain ⟨exchange, credentials, hclient, rfl⟩ := over_of_ofSettings hc ho
  have hforesees : client.Foresees (Arises client start.run.replies steps) start.run.replies :=
    ⟨hr, fun _ hm _ _ hend _ _ hs => .opened hm hend hs⟩
  have hstart : Parallel (client.Beside exchange credentials
      (Arises client start.run.replies steps) start.run) start start :=
    ⟨Run.Parallel.refl start.run, rfl⟩
  have hplay := parallel_play hforesees steps (fun _ _ _ _ _ hm => .named hm) hstart
  rw [← hclient] at hplay
  exact ⟨exchange, exchange.withCredentials credentials, by rw [hclient]; rfl, rfl,
    differInCredentials hplay⟩

/-- An upload that a registry sends to another host, with an empty token. -/
theorem credentials_stay_with_registry_upload : ∃ (settings : Settings) (client other : Client)
    (start : Caller) (steps : List Step),
    Client.ofSettings { settings with credentials := .basic "u" "p" } (fun _ => true) none =
      .ok client ∧
    Client.ofSettings { settings with credentials := .bearer "t" } (fun _ => true) none =
      .ok other ∧
    (∀ reply ∈ start.run.replies, ¬reply.Redirects) ∧
    ((start.play client steps).run.sent.map fun request =>
      (request.method, String.ofList request.url.chars)) =
        [(.post, "http://h/v2/r/blobs/uploads/"), (.put, "http://other/u?digest=sha256%3Aabc")] ∧
    ∃ exchange otherExchange, client.wire = .http exchange ∧ other.wire = .http otherExchange ∧
      DifferInCredentials exchange otherExchange client.address.base
        (Arises client start.run.replies steps) start (start.play client steps)
        (start.play other steps) := by
  let settings : Settings := .new "http://h"
  let base : Url :=
    { scheme := "http".toList
      authority := some { host := some (.domain ['h']) }
      path := .rooted [[]] }
  let client (authorization : String) : Client :=
    { address := ⟨base, rfl⟩
      wire := .http
        { authorization := some (Utf8.ofString authorization)
          timeout := settings.activeTimeout
          reaches := fun _ => true }
      logger := Log.Logger.new false
      tokenHeader := "request-token" }
  let digest : Digest :=
    ⟨"sha256".toList, "abc".toList, by decide, by decide, by decide, by decide⟩
  let opened : Answer :=
    { status := ⟨202⟩
      headers := [⟨locationName, Utf8.ofString "http://other/u"⟩, ⟨"request-token", []⟩] }
  let closed : Answer := { status := ⟨201⟩ }
  let start : Caller :=
    { run := { replies := [{ ending := .answer opened none }, { ending := .answer closed none }] } }
  let steps : List Step := [.create, .call 0 (.upload "r" digest (.ofBytes []))]
  have hparse : Registry.Address.parse "http://h" = .ok ⟨base, rfl⟩ :=
    Except.eq_ok_of_toOption (by decide +kernel)
  have hname (credentials : Credentials) :
      Client.tokenHeaderOf { settings with credentials } = .ok "request-token" :=
    Client.tokenHeaderOf_eq_ok
      (show Header.name? Settings.defaultTokenHeader = some "request-token" from rfl)
  have hmine : Exchange.authorizationOf (.basic "u" "p") =
      .ok (some (Utf8.ofString "Basic dTpw")) := Except.eq_ok_of_toOption (by decide +kernel)
  have htheirs : Exchange.authorizationOf (.bearer "t") =
      .ok (some (Utf8.ofString "Bearer t")) := Except.eq_ok_of_toOption (by decide +kernel)
  have hc : Client.ofSettings { settings with credentials := .basic "u" "p" } (fun _ => true) none =
      .ok (client "Basic dTpw") :=
    Client.ofSettings_eq_ok.mpr ⟨_, _, _, _, hparse, hname _, rfl, hmine, rfl⟩
  have ho : Client.ofSettings { settings with credentials := .bearer "t" } (fun _ => true) none =
      .ok (client "Bearer t") :=
    Client.ofSettings_eq_ok.mpr ⟨_, _, _, _, hparse, hname _, rfl, htheirs, rfl⟩
  have hr : ∀ reply ∈ start.run.replies, ¬reply.Redirects := by
    rintro reply hm ⟨answer, url, hend, hcode, -⟩
    rcases List.mem_pair.mp hm with rfl | rfl
    all_goals
      cases hend
      revert hcode
      decide
  exact ⟨settings, _, _, start, steps, hc, ho, hr, by decide +kernel,
    credentials_stay_with_registry hc ho start hr steps⟩

end Caller

end OciBlobs
