/-
# `Proofs.Command.Credentials` — which credentials a run shows

A username, a password and a token can each be given on the command line, and
each else in the environment, which counts only if no registry is named
(`CommandLine.credentials`).  From what this comes to, an exchange makes one
header, and of a complete username and password it makes it before it looks at
a token (`Credentials.headers`).  A run shows this header, and no other, in
whatever it sends, but for requests that close uploads.

So a token on the command line is shown unless both a username and a password
are there besides, and these may be the environment's: then it is not shown at
all (`token_gives_way_to_environment`).

    Run.Gives       the requests of a client, and what came through of them
    gives_execute   these are the requests of a command
-/
import OciBlobs.Proofs.Blob.Token
import OciBlobs.Proofs.Caller.Credentials
import OciBlobs.Proofs.Command.Fault
import OciBlobs.Proofs.Command.Pull

namespace OciBlobs

open Http

/-! ## Requests that are given to an exchange -/

/-- Requests of a kind were handed over since `before`.  Unless an answer
redirected, what came through is what the exchange made of such requests. -/
structure Run.Gives (exchange : Exchange) (asks : Request → Prop) (before after : Run) :
    Prop where
  replies : after.replies <:+ before.replies
  handed : ∃ given, (∀ request ∈ given, asks request) ∧ after.handed = before.handed ++ given
  sent : (∀ reply ∈ before.replies, ¬reply.Redirects) →
    ∃ given, (∀ request ∈ given, asks request) ∧
      after.sent = before.sent ++ exchange.carried given

section
variable {exchange : Exchange} {asks : Request → Prop}

instance Run.givesPreorder : IsPreorder Run (Run.Gives exchange asks) where
  refl _ := ⟨List.suffix_rfl, ⟨[], List.forall_mem_nil _, (List.append_nil _).symm⟩,
    fun _ => ⟨[], List.forall_mem_nil _, (List.append_nil _).symm⟩⟩
  trans a b c h h' := by
    obtain ⟨given, hgiven, hhanded⟩ := h.handed
    obtain ⟨more, hmore, hhanded'⟩ := h'.handed
    refine ⟨h'.replies.trans h.replies, ⟨given ++ more, ?_, ?_⟩, fun hr => ?_⟩
    · exact List.forall_mem_append.mpr ⟨hgiven, hmore⟩
    · rw [hhanded', hhanded, List.append_assoc]
    · obtain ⟨carried, hcarried, hsent⟩ := h.sent hr
      obtain ⟨last, hlast, hsent'⟩ := h'.sent fun reply hm => hr reply (h.replies.subset hm)
      refine ⟨carried ++ last, List.forall_mem_append.mpr ⟨hcarried, hlast⟩, ?_⟩
      rw [hsent', hsent, Exchange.carried_append, List.append_assoc]

theorem Run.Idles.gives {a b : Run} (h : a.Idles b) : a.Gives exchange asks b := by
  refine ⟨h.replies ▸ List.suffix_rfl, ⟨[], List.forall_mem_nil _, ?_⟩,
    fun _ => ⟨[], List.forall_mem_nil _, ?_⟩⟩
  · rw [h.handed, List.append_nil]
  · rw [h.sent]
    exact (List.append_nil _).symm

namespace Act

variable {α β : Type} {R : Run → Run → Prop} [IsPreorder Run R]

/-- Notes are no steps of their own along a relation that leaves time to pass. -/
theorem Annotates.within {act bare : Act α} (h : act.Annotates bare)
    (hR : ∀ a b, Run.Idles a b → R a b) (hb : bare.Within R) : act.Within R := by
  intro run
  obtain ⟨output, hrun⟩ := h run
  rw [hrun]
  exact IsTrans.trans _ _ _ (hb run) (hR _ _ (Run.idles_withOutput _ _))

/-- What follows a result need only keep to the relation for the value that it
has. -/
theorem Within.ofExcept_bind {result : Except Failure α} {next : α → Act β}
    (hn : ∀ a, result = .ok a → (next a).Within R) :
    (Act.ofExcept result >>= next).Within R := by
  cases result with
  | ok a => exact hn a rfl
  | error failure => exact .fail failure

theorem Within.gives {act : Act α} (h : act.Within Run.Idles) :
    act.Within (Run.Gives exchange asks) :=
  h.mono fun _ _ => Run.Idles.gives

end Act

/-- One request is handed over, at most, and without redirects no other comes
through. -/
theorem Wire.gives_send {request : Request} (ha : asks request) (scope : Scope) :
    ((Wire.http exchange).send scope request).Within (Run.Gives exchange asks) := by
  intro run
  refine ⟨((Wire.http exchange).precedes_send scope request run).replies, ?_, fun hr => ?_⟩
  · refine ⟨_, ?_, (Wire.http exchange).send_handed scope request run⟩
    split
    · exact List.forall_mem_singleton.mpr ha
    · exact List.forall_mem_nil _
  · -- the same exchange on both sides
    have hmirrors : Act.Mirrors (Run.Parallel exchange exchange.authorization asks run)
        ((Wire.http exchange).send scope request)
        ((Wire.http (exchange.withCredentials exchange.authorization)).send scope request) :=
      Wire.mirrors_send hr ha
    obtain ⟨given, hgiven, hsent, -⟩ := (hmirrors run run (Run.Parallel.refl run)).2.sent
    exact ⟨given, hgiven, hsent⟩

end

/-! ## The requests of a command -/

namespace Client

/-- A client was used over an exchange since, to close whatever sessions. -/
abbrev Used (client : Client) (exchange : Exchange) : Run → Run → Prop :=
  Run.Gives exchange (client.Asks fun _ => True)

variable {client : Client} {exchange : Exchange} (hw : client.wire = .http exchange)
  (scope : Scope) (repository : String) (digest : Digest)
include hw

/-- The requests of a client, whatever the sessions are that it closes. -/
theorem gives_send {request : Request} (ha : client.Asks (fun _ => True) request) :
    (client.wire.send scope request).Within (client.Used exchange) := by
  rw [hw]
  exact Wire.gives_send ha scope

theorem gives_holds :
    (client.holds scope repository digest).Within (client.Used exchange) := by
  refine (client.annotates_holds scope repository digest).within (fun _ _ => Run.Idles.gives) ?_
  have hask : client.Asks (fun _ => True) (client.blobRequest repository digest .head) :=
    .blob (.inr rfl) repository digest
  have hsend := (gives_send hw scope hask).bind fun response => .ofExcept response.success
  exact hsend.attempt.bind fun _ => .ofExcept _

theorem gives_download :
    (client.download scope repository digest).Within (client.Used exchange) := by
  refine (client.annotates_download scope repository digest).within (fun _ _ => Run.Idles.gives) ?_
  have hask : client.Asks (fun _ => True) (client.blobRequest repository digest .get) :=
    .blob (.inl rfl) repository digest
  exact (gives_send hw scope hask).bind fun _ => .pure _

theorem gives_upload (content : Content) :
    (client.upload scope repository digest content).Within (client.Used exchange) := by
  refine (client.annotates_upload scope repository digest content).within
    (fun _ _ => Run.Idles.gives) ?_
  refine (gives_send hw scope (.opening repository)).bind fun response => ?_
  refine .bind (.ofExcept _) fun session => .ofExcept_bind fun request hrequest => ?_
  exact (gives_send hw scope (.closing trivial hrequest)).bind fun _ => .pure _

theorem gives_document {α : Type} (decoder : Json.Decoder α) :
    (client.document decoder scope repository digest).Within (client.Used exchange) := by
  refine (gives_download hw scope repository digest).bind fun download => ?_
  refine (Act.reads_idles.decode decoder download).gives.bind fun result => ?_
  cases result with
  | ok value => exact .pure value
  | error fault => exact (Act.idles_note _ _).gives.bind fun _ => .fail _

theorem gives_learn (asks : Bool) :
    (client.learn scope repository digest asks).Within (client.Used exchange) := by
  cases asks with
  | false => exact .pure false
  | true => exact gives_holds hw scope repository digest

end Client

namespace CommandLine

theorem idles_copyTo (output : Option String) (download : Download) :
    (copyTo output download).Within Run.Idles := by
  have hsaved (files : Run → Files) :
      (Act.change fun run => { run with files := files run }).Within Run.Idles :=
    fun _ => ⟨Int.le_refl _, List.suffix_rfl, rfl, rfl, rfl⟩
  have hcopy : (download.copy {}).Within Run.Idles :=
    Act.reads_idles.copyFrom download.scope {} 0 download.response.body
  cases output with
  | none =>
      refine hcopy.bind fun reading => .bind (fun run => run.idles_withOutput _) fun _ => ?_
      rcases reading with ⟨pieces, _ | failure⟩
      · exact .pure _
      · exact .fail failure
  | some path =>
      refine .bind .state fun run => .bind (.ofExcept _) fun created => .bind (hsaved _) fun _ =>
        hcopy.bind fun reading => .bind (hsaved _) fun _ => ?_
      rcases reading with ⟨pieces, _ | failure⟩
      · exact .pure _
      · exact .fail failure

variable {client : Client} {exchange : Exchange} (hw : client.wire = .http exchange)
  (line : CommandLine) (scope : Scope)
include hw

theorem gives_pull (repository : String) (digest : Digest) (output : Option String) :
    (line.pull client scope repository digest output).Within (client.Used exchange) := by
  rw [pull_eq]
  refine (Client.gives_download hw scope repository digest).bind fun download =>
    .bind (.ofExcept _) fun download => ?_
  exact (idles_copyTo output download).gives.bind fun _ => (Act.idles_note _ _).gives

theorem gives_push (repository path : String) (declared : Option String) (asks : Bool) :
    (line.push client scope repository path declared asks).Within (client.Used exchange) := by
  rw [push_eq]
  refine .bind .state fun run => .bind (.ofExcept _) fun digest => .bind (.ofExcept _) fun entry =>
    (Client.gives_learn hw scope repository digest asks).bind fun found => ?_
  cases found with
  | true => exact (Act.idles_note _ _).gives
  | false =>
      exact (Client.gives_upload hw scope repository digest _).bind fun _ =>
        (Act.idles_note _ _).gives

theorem gives_execute :
    (line.execute client scope).Within (client.Used exchange) := by
  have hanswer (text : String) :
      (answer text).Within (client.Used exchange) := fun run =>
    (run.idles_withOutput _).gives
  unfold execute
  cases line.command with
  | «exists» repository written =>
      refine .bind (.ofExcept _) fun digest => ?_
      exact (Client.gives_holds hw scope repository digest).bind fun _ => hanswer _
  | pull repository written output =>
      exact .bind (.ofExcept _) fun digest => gives_pull hw line scope repository digest output
  | push repository file declared asks =>
      exact gives_push hw line scope repository file declared asks
  | config repository written =>
      refine .bind (.ofExcept _) fun digest => ?_
      exact (Client.gives_document hw scope repository digest _).bind fun _ => hanswer _

end CommandLine

/-! ## Credentials that show -/

def Http.Request.credentials (request : Request) : List Header :=
  request.headers.filter fun header => header.name == authorizationName

/-- The header that is made of credentials, if they are enough for one. -/
def Credentials.headers (credentials : Credentials) : List Header :=
  ((Exchange.credentialsText? credentials).map fun text =>
    (⟨authorizationName, Utf8.ofString text⟩ : Header)).toList

namespace Credentials

variable {credentials : Credentials} {token : String}

theorem headers_of_pair {username password : String} (hu : credentials.username = some username)
    (hp : credentials.password = some password) :
    credentials.headers = [⟨authorizationName, Utf8.ofString ("Basic " ++
      String.ofList (Base64.encode (Utf8.ofString (username ++ ":" ++ password))))⟩] := by
  simp [headers, Exchange.credentialsText?, hu, hp]

/-- Without a complete username and password it is the token that makes the text. -/
theorem text_of_token (ht : credentials.token = some token)
    (hnone : credentials.username = none ∨ credentials.password = none) :
    Exchange.credentialsText? credentials = some ("Bearer " ++ token) := by
  unfold Exchange.credentialsText?
  rcases hnone with hu | hp
  · simp [hu, ht]
  · cases hu : credentials.username <;> simp [hp, ht]

theorem headers_of_token (ht : credentials.token = some token)
    (hnone : credentials.username = none ∨ credentials.password = none) :
    credentials.headers = [⟨authorizationName, Utf8.ofString ("Bearer " ++ token)⟩] := by
  rw [headers, text_of_token ht hnone]
  rfl

end Credentials

namespace Http.Exchange

variable {exchange : Exchange} {credentials : Credentials} {authorization : Option Bytes}
  {request : Request}

/-- What an exchange keeps of credentials is the value of their header. -/
theorem headers_of_authorizationOf (h : authorizationOf credentials = .ok authorization) :
    credentials.headers =
      (authorization.map fun value => (⟨authorizationName, value⟩ : Header)).toList := by
  unfold authorizationOf at h
  unfold Credentials.headers
  cases htext : credentialsText? credentials with
  | none =>
      rw [htext] at h
      cases h
      rfl
  | some text =>
      simp only [htext] at h
      cases hvalue : Header.value? text with
      | none =>
          rw [hvalue] at h
          cases h
      | some value =>
          rw [hvalue] at h
          cases h
          rw [Header.eq_of_value hvalue]
          rfl

/-- A token keeps no client from being built, unless a control character is in it. -/
theorem authorizationOf_of_token {token : String} (ht : credentials.token = some token)
    (hnone : credentials.username = none ∨ credentials.password = none)
    (hcontrol : ∀ c ∈ token.toList, ¬Header.IsControl c) :
    authorizationOf credentials = .ok (some (Utf8.ofString ("Bearer " ++ token))) := by
  cases hvalue : Header.value? ("Bearer " ++ token) with
  | none =>
      obtain ⟨c, hc, his⟩ := Header.value_bearer_eq_none.mp hvalue
      exact absurd his (hcontrol c hc)
  | some value =>
      unfold authorizationOf
      simp only [Credentials.text_of_token ht hnone, hvalue, Header.eq_of_value hvalue]

/-- A request without credentials of its own gets those of the exchange. -/
theorem credentials_dress (h : Header.first? request.headers authorizationName = none) :
    (exchange.dress request).credentials =
      (exchange.authorization.map fun value => (⟨authorizationName, value⟩ : Header)).toList := by
  have hown : request.headers.filter (fun header => header.name == authorizationName) = [] := by
    refine List.filter_eq_nil_iff.mpr fun header hm => ?_
    exact List.find?_eq_none.mp (Option.map_eq_none_iff.mp h) header hm
  have hagent : userAgentName ≠ authorizationName := by decide
  unfold Request.credentials
  rw [dress_headers, List.filter_append, List.filter_append, hown,
    Header.filter_missing_of_ne hagent, List.append_nil, List.nil_append,
    Header.missing_of_none h]
  cases exchange.authorization with
  | none => rfl
  | some value => rfl

end Http.Exchange

theorem Client.Asks.without_credentials {client : Client} {known : UploadSession → Prop}
    {request : Request} (h : client.Asks known request) (hm : request.method ≠ .put) :
    Header.first? request.headers authorizationName = none := by
  cases h with
  | blob => rfl
  | opening => rfl
  | closing _ hr =>
      rw [UploadSession.closingRequest_eq_ok hr] at hm
      exact absurd rfl hm

theorem Client.ofSettings_withCredentials {settings : Settings} {credentials : Credentials}
    {reaches : Url → Bool} {logger : Option Log.Logger} {client : Client} {exchange : Exchange}
    {authorization : Option Bytes} (h : ofSettings settings reaches logger = .ok client)
    (hw : client.wire = .http exchange)
    (ha : Exchange.authorizationOf credentials = .ok authorization) :
    ofSettings { settings with credentials } reaches logger =
      .ok (client.through (exchange.withCredentials authorization)) := by
  obtain ⟨_, _, _, _, haddress, hname, hagent, -, rfl⟩ := ofSettings_eq_ok.mp h
  cases hw
  exact ofSettings_eq_ok.mpr ⟨_, _, _, _, haddress, hname, hagent, ha, rfl⟩

/-! ## The credentials of a run -/

/-- The requests that were handed over since `before` go out with these
credentials, but for those that close uploads.  All that came through has them
too, unless an answer redirected. -/
structure Run.Shows (exchange : Exchange) (own : List Header) (before after : Run) : Prop where
  handed : ∃ given, after.handed = before.handed ++ given ∧
    ∀ request ∈ given, request.method ≠ .put → (exchange.dress request).credentials = own
  sent : (∀ reply ∈ before.replies, ¬reply.Redirects) →
    ∃ sent, after.sent = before.sent ++ sent ∧
      ∀ request ∈ sent, request.method ≠ .put → request.credentials = own

theorem Run.Gives.shows {client : Client} {exchange : Exchange} {known : UploadSession → Prop}
    {credentials : Credentials} {before after : Run}
    (h : before.Gives exchange (client.Asks known) after)
    (ha : Exchange.authorizationOf credentials = .ok exchange.authorization) :
    before.Shows exchange credentials.headers after := by
  have hdress (request : Request) (hask : client.Asks known request)
      (hm : request.method ≠ .put) :
      (exchange.dress request).credentials = credentials.headers := by
    rw [Exchange.credentials_dress (hask.without_credentials hm),
      Exchange.headers_of_authorizationOf ha]
  obtain ⟨given, hgiven, hhanded⟩ := h.handed
  refine ⟨⟨given, hhanded, fun request hr => hdress request (hgiven request hr)⟩, fun hstays => ?_⟩
  obtain ⟨given, hgiven, hsent⟩ := h.sent hstays
  refine ⟨exchange.carried given, hsent, fun request hr hm => ?_⟩
  obtain ⟨asked, hasked, rfl⟩ := List.mem_map.mp hr
  exact hdress asked (hgiven asked hasked) hm

namespace CommandLine

/-- A variable of the environment, which counts only if no registry is named. -/
def fallback? (line : CommandLine) (environment : Environment) (name : String) : Option String :=
  if line.registry = none then environment.get? name else none

/-- The credentials in force: each part is that of the command line, or else of
the environment. -/
def credentials (line : CommandLine) (environment : Environment) : Credentials where
  username := line.username.or (line.fallback? environment "REGISTRY_USERNAME")
  password := line.password.or (line.fallback? environment "REGISTRY_PASSWORD")
  token := line.token.or (line.fallback? environment "REGISTRY_TOKEN")

variable {line : CommandLine} {environment : Environment} {reaches : Url → Bool} {scope : Scope}
  {run : Run} {settings : Settings}

theorem credentials_ofEnvironment (h : Settings.ofEnvironment environment = .ok settings) :
    settings.credentials = {
      username := environment.get? "REGISTRY_USERNAME"
      password := environment.get? "REGISTRY_PASSWORD"
      token := environment.get? "REGISTRY_TOKEN" } := by
  unfold Settings.ofEnvironment at h
  cases haddress : environment.get? "REGISTRY_ADDRESS" with
  | none =>
      rw [haddress] at h
      cases h
  | some address =>
      rw [haddress] at h
      dsimp only at h
      -- only the timeout can be at fault, and credentials do not depend on it
      split at h
      · cases h
        rfl
      · split at h
        · cases h
          rfl
        · cases h

theorem credentials_of_settings (h : line.settings environment = .ok settings) :
    settings.credentials = line.credentials environment := by
  cases hregistry : line.registry with
  | some address =>
      unfold CommandLine.settings at h
      rw [hregistry] at h
      cases h
      simp [credentials, fallback?, hregistry, Settings.new]
  | none =>
      rw [settings_unnamed hregistry] at h
      obtain ⟨base, hbase, rfl⟩ := Except.map_eq_ok h
      simp only [credentials, fallback?, hregistry, credentials_ofEnvironment hbase, if_true]

theorem execute_exists {repository written : String}
    (h : line.command = .exists repository written) (client : Client) (scope : Scope) :
    line.execute client scope = (.ofExcept (Digest.parse written) >>= fun digest =>
      client.holds scope repository digest >>= fun found =>
        answer (if found then "true" else "false")) := by
  unfold execute
  rw [h]

theorem credentials_of_registry (h : line.registry ≠ none) (environment : Environment) :
    line.credentials environment =
      { username := line.username, password := line.password, token := line.token } := by
  unfold credentials fallback?
  simp only [if_neg h, Option.or_none]

theorem used_run {client : Client} {exchange : Exchange}
    (hset : line.settings environment = .ok settings)
    (hbuilt : Client.ofSettings settings reaches (some line.logger) = .ok client)
    (hw : client.wire = .http exchange) :
    client.Used exchange run (line.run environment reaches scope run).2 := by
  have hbegun : client.Used exchange run run.begun :=
    Run.Idles.gives ⟨Int.le_refl _, List.suffix_rfl, rfl, rfl, rfl⟩
  by_cases hfits : settings.FitsClock run.now
  · have hready : line.Begins environment reaches scope run
        (.ok (client, settings.ownScope scope run)) run.begun := .ready hset hbuilt hfits
    obtain ⟨output, -, hrun⟩ := hready.carried
    have hexecute := gives_execute hw line (settings.ownScope scope run) run.begun
    rw [hrun]
    exact IsTrans.trans _ _ _ hbegun
      (IsTrans.trans _ _ _ hexecute (Run.idles_withOutput _ output).gives)
  · have hbeyond : line.Begins environment reaches scope run .overflow run.begun :=
      .beyond hset hbuilt hfits
    rw [hbeyond.missed fun _ h => nomatch h]
    exact hbegun

theorem unused_run (h : ∀ settings client, line.settings environment = .ok settings →
      Client.ofSettings settings reaches (some line.logger) ≠ .ok client) :
    (line.run environment reaches scope run).2 = run := by
  obtain ⟨outcome, begun, hbegins⟩ := line.begins_exists environment reaches scope run
  have hmissed := hbegins.missed
  cases hbegins with
  | unset hset => exact congrArg Prod.snd (hmissed fun _ h => nomatch h)
  | unbuilt hset hbuilt => exact congrArg Prod.snd (hmissed fun _ h => nomatch h)
  | beyond hset hbuilt _ => exact absurd hbuilt (h _ _ hset)
  | ready hset hbuilt _ => exact absurd hbuilt (h _ _ hset)

/-- A run shows the credentials in force, whatever the command, the environment, the
scope and the answers are: on every request that it hands to its exchange, but for
those that close uploads, and on all that comes through, unless an answer redirects.

A token on the command line is in force.  It is what the run shows, and keeps no
client from being built unless a control character is in it, if there is no username
or no password in force; with a registry on the command line it is enough that one of
them is not given there.  But without one the environment may have both, and then the
run shows these and not the token. -/
theorem token_gives_way_to_environment (line : CommandLine) (environment : Environment)
    (reaches : Url → Bool) (scope : Scope) (run : Run) :
    let ended := (line.run environment reaches scope run).2
    let inForce := line.credentials environment
    (∀ settings client, line.settings environment = .ok settings →
      Client.ofSettings settings reaches (some line.logger) = .ok client →
      ∃ exchange, client.wire = .http exchange ∧ run.Shows exchange inForce.headers ended) ∧
    ((∀ settings client, line.settings environment = .ok settings →
        Client.ofSettings settings reaches (some line.logger) ≠ .ok client) →
      ended.handed = run.handed ∧ ended.sent = run.sent) ∧
    ∀ token, line.token = some token →
      let bearer : Header := ⟨authorizationName, Utf8.ofString ("Bearer " ++ token)⟩
      (inForce.username = none ∨ inForce.password = none →
        inForce.headers = [bearer] ∧ ((∀ c ∈ token.toList, ¬Header.IsControl c) →
          Exchange.authorizationOf inForce = .ok (some bearer.value))) ∧
      (line.registry ≠ none → line.username = none ∨ line.password = none →
        inForce.headers = [bearer]) ∧
      ∀ username password, inForce.username = some username → inForce.password = some password →
        inForce.headers = [⟨authorizationName, Utf8.ofString ("Basic " ++
          String.ofList (Base64.encode (Utf8.ofString (username ++ ":" ++ password))))⟩] := by
  intro ended inForce
  refine ⟨fun settings client hset hbuilt => ?_, fun hnone => ?_, fun token ht => ?_⟩
  · obtain ⟨_, _, _, authorization, -, -, -, hauthorization, hclient⟩ :=
      Client.ofSettings_eq_ok.mp hbuilt
    have hw : client.wire = .http _ := congrArg Client.wire hclient
    have hused : client.Used _ run ended := used_run hset hbuilt hw
    rw [credentials_of_settings hset] at hauthorization
    exact ⟨_, hw, hused.shows hauthorization⟩
  · have hkept : ended = run := unused_run hnone
    rw [hkept]
    exact ⟨rfl, rfl⟩
  · have htoken : inForce.token = some token := by
      show line.token.or _ = _
      rw [ht]
      rfl
    refine ⟨fun hmissing => ⟨Credentials.headers_of_token htoken hmissing,
        Exchange.authorizationOf_of_token htoken hmissing⟩, fun hregistry hmissing => ?_,
      fun username password hu hp => Credentials.headers_of_pair hu hp⟩
    have halone : inForce = _ := line.credentials_of_registry hregistry environment
    refine Credentials.headers_of_token htoken ?_
    rw [halone]
    exact hmissing

/-- A token on the command line, and a username and a password in the environment: the
only request has these and not the token. -/
theorem token_hidden_by_environment : ∃ line,
    CommandLine.parse ["--token", "t", "exists", "r", "sha256:abc"] = .ok line ∧
    ((line.run [("REGISTRY_ADDRESS", "http://h"), ("REGISTRY_USERNAME", "u"),
        ("REGISTRY_PASSWORD", "p")] (fun _ => true) { token := [] } {}).2.sent.map fun request =>
      (request.method, String.ofList request.url.chars, request.credentials)) =
        [(.head, "http://h/v2/r/blobs/sha256:abc",
          [⟨authorizationName, Utf8.ofString "Basic dTpw"⟩])] ∧
    Utf8.ofString "Basic dTpw" ≠ Utf8.ofString "Bearer t" := by
  let environment : Environment := [("REGISTRY_ADDRESS", "http://h"),
    ("REGISTRY_USERNAME", "u"), ("REGISTRY_PASSWORD", "p")]
  let line : CommandLine := { token := some "t", command := .exists "r" "sha256:abc" }
  have hparse : CommandLine.parse ["--token", "t", "exists", "r", "sha256:abc"] = .ok line :=
    Except.eq_ok_of_toOption (by decide +kernel)
  let credentials : Credentials :=
    { username := some "u", password := some "p", token := some "t" }
  let settings : Settings := { Settings.new "http://h" with credentials }
  have hset : line.settings environment = .ok settings := rfl
  have hauthorization : Exchange.authorizationOf credentials =
      .ok (some (Utf8.ofString "Basic dTpw")) := Except.eq_ok_of_toOption (by decide +kernel)
  let exchange : Exchange :=
    { authorization := some (Utf8.ofString "Basic dTpw")
      timeout := (Settings.new "http://h").activeTimeout
      reaches := fun _ => true }
  let client : Client := (Client.ofHost line.logger).through exchange
  have hbuilt : Client.ofSettings settings (fun _ => true) (some line.logger) = .ok client :=
    Client.ofSettings_withCredentials (Client.ofSettings_host line.logger) rfl hauthorization
  have hready : line.Begins environment (fun _ => true) { token := [] } {}
      (.ok (client, settings.ownScope { token := [] } {})) (Run.begun {}) :=
    .ready hset hbuilt (Settings.fitsClock_new "http://h")
  let digest : Digest :=
    ⟨"sha256".toList, "abc".toList, by decide, by decide, by decide, by decide⟩
  have hdigest : Digest.parse "sha256:abc" = .ok digest :=
    Except.eq_ok_of_toOption (by decide +kernel)
  have hexecute : ((line.execute client (settings.ownScope { token := [] } {})
      (Run.begun {})).2.sent.map fun request =>
        (request.method, String.ofList request.url.chars, request.credentials)) =
      [(.head, "http://h/v2/r/blobs/sha256:abc",
        [⟨authorizationName, Utf8.ofString "Basic dTpw"⟩])] := by
    rw [execute_exists (show line.command = _ from rfl), hdigest, Act.ofExcept_ok,
      Act.bind_ok (Act.pure_run ..)]
    decide +kernel
  obtain ⟨output, -, hrun⟩ := hready.carried
  have hsent := congrArg (fun ended => ended.2.sent) hrun
  dsimp only [Run.withOutput_sent] at hsent
  refine ⟨line, hparse, ?_, by decide⟩
  rw [hsent]
  exact hexecute

end CommandLine

end OciBlobs
