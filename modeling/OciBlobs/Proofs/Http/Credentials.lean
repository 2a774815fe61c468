/-
# `Proofs.Http.Credentials` — what the credentials of an exchange show in

An exchange puts its credentials on requests that have none.  Another exchange
that is set up alike, but for them, sends the same requests with other
credentials, and the very same ones where they had credentials of their own
(`same_dress`).  Nothing else shows them, as long as no answer redirects: not
what an exchange does with a request, and not what comes back
(`mirrors_send`).

    Reply.Redirects      an answer that leads elsewhere
    SameButCredentials   requests that differ in credentials only
    Run.Parallel         two runs with such requests
-/
import OciBlobs.Proofs.Http.Alike

namespace OciBlobs

open Http

/-- The answer asks to go on elsewhere, and says where. -/
def Http.Reply.Redirects (reply : Reply) : Prop :=
  ∃ answer url, reply.ending = .answer answer url ∧
    answer.status.code ∈ [301, 302, 303, 307, 308] ∧
    (Header.first? answer.headers locationName).isSome = true

/-- The same request but for its credentials, and the very same if it closes an
upload. -/
structure Http.Request.SameButCredentials (a b : Request) : Prop where
  method : a.method = b.method
  url : a.url = b.url
  headers : Header.without a.headers authorizationName =
    Header.without b.headers authorizationName
  body : a.body = b.body
  put : a.method = .put → a = b

/-! ## Headers that an exchange adds -/

namespace Http.Header

/-- Headers with a value for a name, unless they have one. -/
def supply (name : String) (value : Option Bytes) (headers : List Header) : List Header :=
  match value, first? headers name with
  | some value, none => headers ++ [⟨name, value⟩]
  | _, _ => headers

/-- The header that is added for a value, unless there is one of its name. -/
def missing (name : String) (value : Option Bytes) (headers : List Header) : List Header :=
  match value, first? headers name with
  | some value, none => [⟨name, value⟩]
  | _, _ => []

variable {headers more : List Header} {name other : String} {value : Option Bytes}

theorem supply_eq (name : String) (value : Option Bytes) (headers : List Header) :
    supply name value headers = headers ++ missing name value headers := by
  unfold supply missing
  cases value <;> cases first? headers name <;> simp

theorem mem_missing {header : Header} (h : header ∈ missing name value headers) :
    header.name = name := by
  unfold missing at h
  split at h
  · rw [List.mem_singleton] at h
    rw [h]
  · cases h

theorem filter_missing_of_ne (h : name ≠ other) :
    (missing name value headers).filter (fun header => header.name == other) = [] := by
  refine List.filter_eq_nil_iff.mpr fun header hm => ?_
  rw [mem_missing hm]
  simpa using h

theorem missing_of_first (h : (first? headers name).isSome = true) :
    missing name value headers = [] := by
  obtain ⟨own, hown⟩ := Option.isSome_iff_exists.mp h
  unfold missing
  rw [hown]
  cases value <;> rfl

theorem missing_of_none (h : first? headers name = none) :
    missing name value headers = (value.map fun value => (⟨name, value⟩ : Header)).toList := by
  unfold missing
  rw [h]
  cases value <;> rfl

theorem without_append (headers more : List Header) (name : String) :
    without (headers ++ more) name = without headers name ++ without more name :=
  List.filter_append ..

theorem without_missing : without (missing name value headers) name = [] := by
  refine List.filter_eq_nil_iff.mpr fun header hm => ?_
  simp [mem_missing hm]

theorem missing_append_of_ne (h : ∀ header ∈ more, header.name ≠ name) :
    missing name value (headers ++ more) = missing name value headers := by
  have hnone : more.find? (fun header => header.name == name) = none :=
    List.find?_eq_none.mpr fun header hm => by simp [h header hm]
  unfold missing first?
  rw [List.find?_append, hnone, Option.or_none]

end Http.Header

namespace Http.Exchange

def withCredentials (exchange : Exchange) (credentials : Option Bytes) : Exchange :=
  { exchange with authorization := credentials }

/-- The user agent of settings, as a header value. -/
def userAgentOf (settings : Settings) : Except Failure (Option Bytes) :=
  match settings.userAgent with
  | none => .ok none
  | some text =>
    match Header.value? text with
    | some value => .ok (some value)
    | none => .error (.exchange .settings)

/-- Credentials are one part of an exchange, and no other part depends on them. -/
theorem ofSettings_eq (settings : Settings) (reaches : Url → Bool) :
    Exchange.ofSettings settings reaches =
      (userAgentOf settings).bind fun userAgent =>
        (authorizationOf settings.credentials).map fun authorization =>
          { authorization, userAgent, timeout := settings.activeTimeout, reaches } := by
  unfold Exchange.ofSettings userAgentOf
  cases settings.userAgent with
  | none => cases authorizationOf settings.credentials <;> rfl
  | some text =>
      cases hv : Header.value? text with
      | none => simp [hv]; rfl
      | some value => cases authorizationOf settings.credentials <;> simp [hv] <;> rfl

variable (exchange : Exchange) (credentials : Option Bytes) {request : Request}

theorem dress_supplies (request : Request) :
    (exchange.dress request).headers = Header.supply userAgentName exchange.userAgent
      (Header.supply authorizationName exchange.authorization request.headers) :=
  rfl

/-- An exchange adds its credentials and its user agent, where they are missing. -/
theorem dress_headers (request : Request) :
    (exchange.dress request).headers = request.headers ++
      Header.missing authorizationName exchange.authorization request.headers ++
      Header.missing userAgentName exchange.userAgent request.headers := by
  have hnames : ∀ header ∈ Header.missing authorizationName exchange.authorization
      request.headers, header.name ≠ userAgentName := fun header hm => by
    rw [Header.mem_missing hm]
    decide
  rw [dress_supplies, Header.supply_eq, Header.supply_eq, Header.missing_append_of_ne hnames]

/-- Another exchange's credentials change nothing but these, and nothing at all
about requests that have their own. -/
theorem same_dress (h : request.method = .put →
      (Header.first? request.headers authorizationName).isSome = true) :
    (exchange.dress request).SameButCredentials
      ((exchange.withCredentials credentials).dress request) where
  method := rfl
  url := rfl
  headers := by
    rw [dress_headers, dress_headers]
    simp only [Header.without_append, Header.without_missing]
    rfl
  body := rfl
  put hput := by
    have hheaders : (exchange.dress request).headers =
        ((exchange.withCredentials credentials).dress request).headers := by
      rw [dress_headers, dress_headers, Header.missing_of_first (h hput),
        Header.missing_of_first (h hput)]
      rfl
    unfold dress at hheaders ⊢
    exact congrArg (fun headers => { request with headers }) hheaders

end Http.Exchange

theorem Http.Request.SameButCredentials.onWire {a b : Request} (h : a.SameButCredentials b) :
    (Exchange.onWire a).SameButCredentials (Exchange.onWire b) where
  method := h.method
  url := congrArg (fun url : Url => { url with fragment := none }) h.url
  headers := h.headers
  body := congrArg (fun body : Option Content => some (body.getD { pieces := [] })) h.body
  put hput := congrArg Exchange.onWire (h.put hput)

/-! ## Runs side by side -/

/-- What the far side sees of requests. -/
def Http.Exchange.carried (exchange : Exchange) (requests : List Request) : List Request :=
  requests.map fun request => onWire (exchange.dress request)

theorem Http.Exchange.carried_append (exchange : Exchange) (front back : List Request) :
    exchange.carried (front ++ back) = exchange.carried front ++ exchange.carried back :=
  List.map_append

/-- Two runs over an exchange and the same with other credentials, since a start
that they have in common: they are the same but for what came through, and this
is what each exchange makes of the same requests. -/
structure Run.Parallel (exchange : Exchange) (credentials : Option Bytes)
    (asks : Request → Prop) (start a b : Run) : Prop where
  same : b = { a with sent := b.sent }
  replies : a.replies <:+ start.replies
  handed : ∃ given, (∀ request ∈ given, asks request) ∧ a.handed = start.handed ++ given
  sent : ∃ given, (∀ request ∈ given, asks request) ∧
    a.sent = start.sent ++ exchange.carried given ∧
    b.sent = start.sent ++ (exchange.withCredentials credentials).carried given

namespace Run.Parallel

variable {exchange : Exchange} {credentials : Option Bytes} {asks : Request → Prop}
  {start a b : Run}

theorem refl (start : Run) : Parallel exchange credentials asks start start start :=
  ⟨rfl, List.suffix_rfl, ⟨[], List.forall_mem_nil _, (List.append_nil _).symm⟩,
    ⟨[], List.forall_mem_nil _, (List.append_nil _).symm, (List.append_nil _).symm⟩⟩

theorem change {f : Run → Run} (hf : ∀ run sent, f { run with sent := sent } =
      { f run with sent := sent }) (hreplies : ∀ run, (f run).replies = run.replies)
    (hhanded : ∀ run, (f run).handed = run.handed)
    (h : Parallel exchange credentials asks start a b) :
    Parallel exchange credentials asks start (f a) (f b) := by
  have hsent (run : Run) : (f run).sent = run.sent := by
    have hkept := congrArg Run.sent (hf run run.sent)
    exact hkept
  refine ⟨?_, ?_, ?_, ?_⟩
  · rw [hsent, ← hf, ← h.same]
  · rw [hreplies]
    exact h.replies
  · rw [hhanded]
    exact h.handed
  · rw [hsent, hsent]
    exact h.sent

theorem timed : Run.Timed (Parallel exchange credentials asks start) where
  now h := (congrArg Run.now h.same).symm
  cancelled h := (congrArg Run.cancelled h.same).symm
  reach _ h := h.change (f := fun run => { run with now := max run.now _ }) (fun _ _ => rfl)
    (fun _ => rfl) fun _ => rfl
  cancel token h := h.change (f := fun run => { run with cancelled := token :: run.cancelled })
    (fun _ _ => rfl) (fun _ => rfl) fun _ => rfl

theorem hand {request : Request} (ha : asks request)
    (h : Parallel exchange credentials asks start a b) :
    Parallel exchange credentials asks start { a with handed := a.handed ++ [request] }
      { b with handed := b.handed ++ [request] } := by
  obtain ⟨given, hgiven, hhanded⟩ := h.handed
  refine ⟨?_, h.replies, ⟨given ++ [request], ?_, ?_⟩, h.sent⟩
  · rw [h.same]
  · exact List.forall_mem_append.mpr ⟨hgiven, List.forall_mem_singleton.mpr ha⟩
  · rw [← List.append_assoc, ← hhanded]

/-- The same request comes through in both runs, as each exchange makes it. -/
theorem deliver {request : Request} (ha : asks request)
    (h : Parallel exchange credentials asks start a b) :
    Parallel exchange credentials asks start
      { a with
        sent := a.sent ++ [Exchange.onWire (exchange.dress request)], replies := a.replies.tail }
      { b with
        sent := b.sent ++ [Exchange.onWire ((exchange.withCredentials credentials).dress request)]
        replies := b.replies.tail } := by
  obtain ⟨given, hgiven, hsent, hother⟩ := h.sent
  refine ⟨?_, (List.tail_suffix _).trans h.replies, h.handed, ⟨given ++ [request], ?_, ?_, ?_⟩⟩
  · rw [h.same]
  · exact List.forall_mem_append.mpr ⟨hgiven, List.forall_mem_singleton.mpr ha⟩
  · rw [hsent, Exchange.carried_append, ← List.append_assoc]
    rfl
  · rw [hother, Exchange.carried_append, ← List.append_assoc]
    rfl

end Run.Parallel

/-! ## Sending without redirects -/

namespace Http.Exchange

variable {exchange : Exchange} {credentials : Option Bytes} {asks : Request → Prop}
  {start run after : Run} {scope : Scope} {giveUp : Option Int} {request : Request}

theorem redirected_of_not_redirects {reply : Reply} {answer : Answer} {url : Option Url}
    (h : ¬reply.Redirects) (hend : reply.ending = .answer answer url) (request : Request) :
    redirected? request answer = none := by
  have htarget (hcode : answer.status.code ∈ [301, 302, 303, 307, 308]) :
      target? request answer = none := by
    unfold target?
    cases hl : Header.first? answer.headers locationName with
    | none => rfl
    | some value => exact absurd ⟨answer, url, hend, hcode, by rw [hl]; rfl⟩ h
  unfold redirected?
  split
  case h_1 hcode => rw [htarget (by simp [hcode]), Option.map_none]
  case h_2 hcode => rw [htarget (by simp [hcode]), Option.map_none]
  case h_3 hcode => rw [htarget (by simp [hcode]), Option.map_none]
  case h_4 hcode => rw [htarget (by simp [hcode]), Option.map_none, ite_self]
  case h_5 hcode => rw [htarget (by simp [hcode]), Option.map_none, ite_self]
  case h_6 => rfl

theorem mirrors_deliver (ha : asks request) (broken : Failure) :
    Act.Mirrors (Run.Parallel exchange credentials asks start)
      (.deliver (onWire (exchange.dress request)) { ending := .closed } broken)
      (.deliver (onWire ((exchange.withCredentials credentials).dress request))
        { ending := .closed } broken) := by
  intro a b hab
  have hreplies : b.replies = a.replies := by rw [hab.same]
  have hsame : (onWire (exchange.dress request)).comesThrough a.replies =
      (onWire ((exchange.withCredentials credentials).dress request)).comesThrough b.replies := by
    rw [hreplies]
    rfl
  cases hc : (onWire ((exchange.withCredentials credentials).dress request)).comesThrough
      b.replies with
  | true =>
      rw [Act.deliver_run (hsame.trans hc), Act.deliver_run hc]
      exact ⟨by rw [hreplies], hab.deliver ha⟩
  | false =>
      rw [Act.deliver_broken (hsame.trans hc), Act.deliver_broken hc]
      exact ⟨rfl, hab⟩

/-- What an exchange asks with other credentials is answered in the same way. -/
theorem mirrors_ask (ha : asks request) :
    Act.Mirrors (Run.Parallel exchange credentials asks start)
      (exchange.ask scope giveUp (exchange.dress request))
      ((exchange.withCredentials credentials).ask scope giveUp
        ((exchange.withCredentials credentials).dress request)) := by
  have hdeliver (broken : Failure) :
      Act.Mirrors (Run.Parallel exchange credentials asks start) _ _ := mirrors_deliver ha broken
  have hurl : (exchange.dress request).url =
      ((exchange.withCredentials credentials).dress request).url := rfl
  have hreaches : (exchange.withCredentials credentials).reaches = exchange.reaches := rfl
  generalize exchange.dress request = mine at hdeliver hurl ⊢
  generalize (exchange.withCredentials credentials).dress request = theirs at hdeliver hurl ⊢
  have hgone : unanswered mine = unanswered theirs := by rw [unanswered, unanswered, hurl]
  have hresult (ending : Reply.Ending) : ending.result mine = ending.result theirs := by
    unfold Reply.Ending.result
    rw [hurl]
  unfold ask
  rw [hreaches, hurl, hgone]
  refine .ite (.fail _) (.ite (.fail _) ?_)
  refine .bind (hdeliver _) fun reply => .bind ?_ fun _ => ?_
  · exact (Act.reads_mirrors Run.Parallel.timed).await _ _ _
  · rw [hresult]
    exact .bind (.ofExcept _) fun _ => .pure _

theorem not_redirects (hr : ∀ reply ∈ start.replies, ¬reply.Redirects)
    (hs : run.replies <:+ start.replies) {answer : Answer}
    (h : exchange.ask scope giveUp request run = (.ok answer, after)) (other : Request) :
    redirected? other answer = none := by
  obtain ⟨reply, hm, url, hend⟩ := ask_ok h
  exact redirected_of_not_redirects (hr reply (hs.subset hm)) hend other

theorem mirrors_follow (hr : ∀ reply ∈ start.replies, ¬reply.Redirects) (ha : asks request)
    (remaining : Nat) :
    Act.Mirrors (Run.Parallel exchange credentials asks start)
      (exchange.follow scope giveUp remaining (exchange.dress request))
      ((exchange.withCredentials credentials).follow scope giveUp remaining
        ((exchange.withCredentials credentials).dress request)) := by
  have hreceived (answer : Answer) : received (exchange.dress request) answer =
      received ((exchange.withCredentials credentials).dress request) answer := rfl
  cases remaining
  all_goals
    refine .bind_run (mirrors_ask ha) fun run _ answer after hab hanswer => ?_
    have hnone := not_redirects hr hab.replies hanswer
    rw [hnone, hnone, hreceived]
    exact .pure _

theorem mirrors_send (hr : ∀ reply ∈ start.replies, ¬reply.Redirects) (ha : asks request) :
    Act.Mirrors (Run.Parallel exchange credentials asks start)
      (exchange.send scope request)
      ((exchange.withCredentials credentials).send scope request) := by
  refine .state fun a b hab => ?_
  rw [← Run.Parallel.timed.now hab]
  exact mirrors_follow hr ha redirectLimit

theorem send_ok (hr : ∀ reply ∈ run.replies, ¬reply.Redirects) {response : Response}
    (h : exchange.send scope request run = (.ok response, after)) :
    ∃ reply ∈ run.replies, ∃ answer url, reply.ending = .answer answer url ∧
      response = received request answer := by
  obtain ⟨answer, mid, hask, hnext⟩ := Act.bind_eq_ok (show (exchange.ask scope
    (exchange.timeout.map fun timeout => run.now + timeout.toNanos) (exchange.dress request) >>= _)
      run = (.ok response, after) from h)
  obtain ⟨reply, hm, url, hend⟩ := ask_ok hask
  rw [redirected_of_not_redirects (hr reply hm) hend] at hnext
  cases hnext
  exact ⟨reply, hm, answer, url, hend, rfl⟩

end Http.Exchange

namespace Wire

variable {exchange : Exchange} {credentials : Option Bytes} {asks : Request → Prop}
  {start run after : Run} {scope : Scope} {request : Request}

/-- Requests are answered in the same way whatever the credentials are. -/
theorem mirrors_send (hr : ∀ reply ∈ start.replies, ¬reply.Redirects) (ha : asks request) :
    Act.Mirrors (Run.Parallel exchange credentials asks start)
      ((Wire.http exchange).send scope request)
      ((Wire.http (exchange.withCredentials credentials)).send scope request) := by
  refine .bind ((Act.reads_mirrors Run.Parallel.timed).check scope) fun _ => ?_
  exact .bind (.change fun _ _ hab => hab.hand ha) fun _ => Exchange.mirrors_send hr ha

theorem send_ok (hr : ∀ reply ∈ run.replies, ¬reply.Redirects) {response : Response}
    (h : (Wire.http exchange).send scope request run = (.ok response, after)) :
    ∃ reply ∈ run.replies, ∃ answer url, reply.ending = .answer answer url ∧
      response = Exchange.received request answer := by
  cases he : scope.endedIn? run with
  | some failure =>
      rw [send_of_ended he] at h
      cases h
  | none =>
      rw [send_of_open he] at h
      have hreplies : ∀ reply ∈ (run.handing request).replies, ¬reply.Redirects := hr
      exact Exchange.send_ok hreplies h

end Wire

end OciBlobs
