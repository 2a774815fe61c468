/-
# `Proofs.Client` — how a client is built

A client is put together from parts that its settings tell one by one: the
address, the name of the header with upload tokens, the user agent and the
credentials.  Each of them can be at fault by itself, and no part depends on
another (`Client.ofSettings_eq_ok`).
-/
import OciBlobs.Client
import OciBlobs.Proofs.Http.Credentials
import OciBlobs.Proofs.Url.Authority

namespace OciBlobs

open Http

namespace Client

/-- The name of the header with upload tokens, as settings tell it. -/
def tokenHeaderOf (settings : Settings) : Except Failure String :=
  match Header.name? settings.tokenHeader with
  | some name => .ok name
  | none =>
    .error (.settings ("invalid upload token header '" ++ settings.tokenHeader
      ++ "': invalid HTTP header name"))

theorem tokenHeaderOf_eq_ok {settings : Settings} {name : String}
    (h : Header.name? settings.tokenHeader = some name) : tokenHeaderOf settings = .ok name := by
  rw [tokenHeaderOf, h]

theorem build_eq (settings : Settings) (wire : Except Failure Wire)
    (logger : Option Log.Logger) :
    build settings wire logger =
      (Registry.Address.parse settings.address).bind fun address =>
        (tokenHeaderOf settings).bind fun tokenHeader => wire.map fun wire =>
          { address, wire, tokenHeader
            logger := logger.getD (Log.Logger.new settings.verbose) } := by
  unfold build tokenHeaderOf
  cases Registry.Address.parse settings.address with
  | error failure => rfl
  | ok address =>
      cases hn : Header.name? settings.tokenHeader with
      | none => simp; rfl
      | some name => cases wire <;> simp <;> rfl

/-- A client is built from an address, a header name, a user agent and credentials,
each of which settings tell by themselves. -/
theorem ofSettings_eq_ok {settings : Settings} {reaches : Url → Bool}
    {logger : Option Log.Logger} {client : Client} :
    ofSettings settings reaches logger = .ok client ↔
      ∃ address tokenHeader userAgent authorization,
        Registry.Address.parse settings.address = .ok address ∧
        tokenHeaderOf settings = .ok tokenHeader ∧
        Exchange.userAgentOf settings = .ok userAgent ∧
        Exchange.authorizationOf settings.credentials = .ok authorization ∧
        client = {
          address, tokenHeader
          wire := .http
            { authorization, userAgent, timeout := settings.activeTimeout, reaches }
          logger := logger.getD (Log.Logger.new settings.verbose) } := by
  rw [ofSettings, build_eq, Exchange.ofSettings_eq]
  constructor
  · intro h
    obtain ⟨address, ha, hheader⟩ := Except.bind_eq_ok h
    obtain ⟨tokenHeader, hn, hclient⟩ := Except.bind_eq_ok hheader
    obtain ⟨wire, hwire, rfl⟩ := Except.map_eq_ok hclient
    obtain ⟨exchange, hexchange, rfl⟩ := Except.map_eq_ok hwire
    obtain ⟨userAgent, hu, hcredentials⟩ := Except.bind_eq_ok hexchange
    obtain ⟨authorization, hm, rfl⟩ := Except.map_eq_ok hcredentials
    exact ⟨address, tokenHeader, userAgent, authorization, ha, hn, hu, hm, rfl⟩
  · rintro ⟨address, tokenHeader, userAgent, authorization, ha, hn, hu, hm, rfl⟩
    rw [ha, hn, hu, hm]
    rfl

/-! ## Nothing but an address -/

/-- The client of an address that is just a host. -/
def ofHost (logger : Log.Logger) : Client where
  address :=
    { base :=
        { scheme := "http".toList
          authority := some { host := some (.domain ['h']) }
          path := .rooted [[]] }
      hasHost := rfl }
  wire := .http
    { timeout := (Settings.new "http://h").activeTimeout
      reaches := fun _ => true }
  logger := logger
  tokenHeader := "request-token"

theorem ofSettings_host (logger : Log.Logger) :
    ofSettings (Settings.new "http://h") (fun _ => true) (some logger) = .ok (ofHost logger) := by
  have hparse : Registry.Address.parse "http://h" = .ok
      { base :=
          { scheme := "http".toList
            authority := some { host := some (.domain ['h']) }
            path := .rooted [[]] }
        hasHost := rfl } :=
    Except.eq_ok_of_toOption (by decide +kernel)
  have hname : tokenHeaderOf (Settings.new "http://h") = .ok "request-token" :=
    tokenHeaderOf_eq_ok
      (show Header.name? Settings.defaultTokenHeader = some "request-token" from rfl)
  exact ofSettings_eq_ok.mpr ⟨_, _, _, _, hparse, hname, rfl, rfl, rfl⟩

end Client

end OciBlobs
