/-
# `Proofs.Settings` — settings survive their document

Settings are read back from the text of their document as they were
(`ofText_render`), whatever their strings and durations are.  A document may
also leave members out, all but the address: the settings are then as usual
where a member is missing (`takes_keeping`).  For the timeout this is not what
they are where it is `null` (`survives_document`).
-/
import OciBlobs.Proofs.Json.Record
import OciBlobs.Settings.Document

namespace OciBlobs

open Json Decoder

variable {depth : Nat}

theorem takes_optionalText (depth : Nat) (s : Option String) :
    (optional text).Takes depth (optionalText s) s := by
  cases s with
  | none => exact takes_null text depth
  | some s => exact (takes_text depth s).optional (c := '"') rfl (by decide) (by decide)

namespace Duration

theorem carry_self (duration : Duration) :
    carry? duration.seconds duration.nanos = some duration := by
  have hnanos := duration.nanos_lt
  have hseconds := duration.seconds_lt
  have hdiv : duration.nanos / 1000000000 = 0 := Nat.div_eq_of_lt hnanos
  simp only [carry?, hdiv, Nat.add_zero, Nat.mod_eq_of_lt hnanos, dif_pos hseconds]

theorem takes_toJson (depth : Nat) (duration : Duration) :
    decoder.Takes (depth + 2) duration.toJson duration := by
  have hseconds : duration.seconds ≤ 0xFFFFFFFFFFFFFFFF := Nat.le_of_lt_succ duration.seconds_lt
  have hnanos : duration.nanos ≤ 0xFFFFFFFF :=
    Nat.le_of_lt (Nat.lt_trans duration.nanos_lt (by decide))
  have hmove₁ : record.Moves (depth + 1) {} ("secs", .number (.natural duration.seconds))
      { seconds := some duration.seconds } :=
    Record.Moves.of rfl rfl (takes_unsigned hseconds (by decide)) rfl
  have hmove₂ : record.Moves (depth + 1) { seconds := some duration.seconds }
      ("nanos", .number (.natural duration.nanos))
      { seconds := some duration.seconds, nanos := some duration.nanos } :=
    Record.Moves.of rfl rfl (takes_unsigned hnanos (by decide)) rfl
  have hcourse : record.Course (depth + 1) {} _ _ := .next hmove₁ (.next hmove₂ .done)
  exact hcourse.takes (by simp [record, carry_self])

end Duration

namespace Credentials

theorem takes_toJson (depth : Nat) (credentials : Credentials) :
    decoder.Takes (depth + 2) credentials.toJson credentials := by
  have hcourse : record.Course (depth + 1) {}
      [("username", optionalText credentials.username),
        ("password", optionalText credentials.password),
        ("token", optionalText credentials.token)]
      ⟨some credentials.username, some credentials.password, some credentials.token⟩ :=
    .next (Record.Moves.of rfl rfl (takes_optionalText _ _) rfl) <|
      .next (Record.Moves.of rfl rfl (takes_optionalText _ _) rfl) <|
        .next (Record.Moves.of rfl rfl (takes_optionalText _ _) rfl) .done
  exact hcourse.takes rfl

end Credentials

namespace Settings

/-- Settings as they are where their members are kept, and as usual elsewhere. -/
def asKept (keep : String → Bool) (settings : Settings) : Settings :=
  let usual := new settings.address
  { address := settings.address
    credentials := if keep "auth" then settings.credentials else usual.credentials
    skipTls := if keep "skip_tls" then settings.skipTls else usual.skipTls
    timeout := if keep "timeout" then settings.timeout else usual.timeout
    userAgent := if keep "user_agent" then settings.userAgent else usual.userAgent
    tokenHeader := if keep "upload_token_header" then settings.tokenHeader else usual.tokenHeader
    verbose := if keep "verbose" then settings.verbose else usual.verbose }

theorem takes_timeout (depth : Nat) (timeout : Option Duration) :
    (optional Duration.decoder).Takes (depth + 2)
      (match timeout with | some timeout => timeout.toJson | none => .null) timeout := by
  cases timeout with
  | none => exact takes_null _ _
  | some timeout =>
      exact (timeout.takes_toJson depth).optional (c := '\x7b') rfl (by decide) (by decide)

/-- Settings are taken back from a document that keeps their address; the
members that it leaves out are as usual. -/
theorem takes_keeping (keep : String → Bool) (haddress : keep "registry_url" = true) (depth : Nat)
    (settings : Settings) :
    decoder.Takes (depth + 4) (settings.toJson.keeping keep) (settings.asKept keep) := by
  refine @Record.Course.takes _ _ (depth + 2) record
    { address := Record.kept keep "registry_url" settings.address
      credentials := Record.kept keep "auth" settings.credentials
      skipTls := Record.kept keep "skip_tls" settings.skipTls
      timeout := Record.kept keep "timeout" settings.timeout
      userAgent := Record.kept keep "user_agent" settings.userAgent
      tokenHeader := Record.kept keep "upload_token_header" settings.tokenHeader
      verbose := Record.kept keep "verbose" settings.verbose } _ _ ?course ?complete
  case course =>
    -- each field is written once, and none of them is given before its member
    refine .kept (fun s x => { s with address := x }) rfl rfl rfl rfl (takes_text _ _) ?_
    refine .kept (fun s x => { s with credentials := x }) rfl rfl rfl rfl
      (Credentials.takes_toJson _ _) ?_
    refine .kept (fun s x => { s with skipTls := x }) rfl rfl rfl rfl (takes_boolean _ _) ?_
    refine .kept (fun s x => { s with timeout := x }) rfl rfl rfl rfl (takes_timeout _ _) ?_
    refine .kept (fun s x => { s with userAgent := x }) rfl rfl rfl rfl
      (takes_optionalText _ _) ?_
    refine .kept (fun s x => { s with tokenHeader := x }) rfl rfl rfl rfl (takes_text _ _) ?_
    refine .kept (fun s x => { s with verbose := x }) rfl rfl rfl rfl (takes_boolean _ _) ?_
    exact .done
  case complete =>
    simp only [record, Record.kept_of haddress, Record.getD_kept, Record.join_kept]
    rfl

theorem takes_toJson (depth : Nat) (settings : Settings) :
    decoder.Takes (depth + 4) settings.toJson settings :=
  takes_keeping (fun _ => true) rfl depth settings

/-- Settings are read back from the text of their document. -/
theorem ofText_render (settings : Settings) : decoder.ofText settings.render = .ok settings :=
  (settings.takes_toJson 124).ofText

/-- Settings survive their document, and with them the timeout in force and
whether there are credentials.  No timeout is written as `null`, which is not
the same as no member: that one stands for the usual timeout. -/
theorem survives_document (settings : Settings) :
    decoder.ofText settings.render = .ok settings ∧
      (decoder.ofText settings.render).map activeTimeout = .ok settings.activeTimeout ∧
      (decoder.ofText settings.render).map (·.credentials.areComplete) =
        .ok settings.credentials.areComplete ∧
      decoder.ofText { settings with timeout := none }.render =
        .ok { settings with timeout := none } ∧
      decoder.ofText (String.ofList (settings.toJson.keeping (· != "timeout")).compact) =
        .ok { settings with timeout := some defaultTimeout } := by
  have hback := settings.ofText_render
  refine ⟨hback, ?_, ?_, ofText_render _, ?_⟩
  · rw [hback]
    rfl
  · rw [hback]
    rfl
  · exact (takes_keeping (· != "timeout") rfl 124 settings).ofText

end Settings

end OciBlobs
