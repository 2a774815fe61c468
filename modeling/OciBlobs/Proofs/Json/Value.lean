/-
# `Proofs.Json.Value` — every document is foretold

Each reader of a value foretells (`Foretold`), from the escapes of a literal
up to a whole value.  A reader that begins by passing an octet needs one in
hand, and so it is foretold only behind a look at that octet; a value passes
at least one octet, and a container is left at its closing bracket.

The octets of a document that may go on are never a whole document, so that
they foretell a fault or nothing (`foretells_document`).
-/
import OciBlobs.Json.Reader.Structure
import OciBlobs.Proofs.Json.Foretold

namespace OciBlobs.Json.Reader

variable {α σ : Type} {cursor : Cursor}

/-! ## Literals -/

theorem foretells_peekInside (h : cursor.Goes) :
    peekInside.Foretells cursor fun b after => after.rest.head? = some b := by
  refine (foretells_peek h).bind fun seen after hgoes _ ⟨b, hseen, hhead⟩ => ?_
  subst hseen
  exact foretells_pure hgoes hhead

theorem foretells_nextInside (h : cursor.Goes) :
    nextInside.Foretells cursor fun _ after => after.rest.length < cursor.rest.length := by
  refine (foretells_peekInside h).bind fun b after hgoes hle hhead => ?_
  refine (foretells_drop hgoes (ne_nil_of_head hhead)).bind fun _ _ hgoes' _ hlt => ?_
  exact foretells_pure hgoes' (Nat.lt_of_lt_of_le hlt hle)

theorem foretells_hexQuad (h : cursor.Goes) : hexQuad.Foretells cursor fun _ _ => True := by
  refine (foretells_nextInside h).bind fun a _ ha _ _ => ?_
  refine (foretells_nextInside ha).bind fun b _ hb _ _ => ?_
  refine (foretells_nextInside hb).bind fun c _ hc _ _ => ?_
  refine (foretells_nextInside hc).bind fun d _ hd _ _ => ?_
  cases hexQuad? a b c d with
  | some n => exact foretells_pure hd trivial
  | none => exact foretells_failHere hd (by decide) _

theorem foretells_trailingSurrogate (h : cursor.Goes) :
    trailingSurrogate.Foretells cursor fun _ _ => True := by
  refine (foretells_peekInside h).bind fun b _ hb _ hhead => ?_
  refine (foretells_drop hb (ne_nil_of_head hhead)).bind fun _ _ hb _ _ => ?_
  refine .ite (fun _ => foretells_failHere hb (by decide) _) fun _ => ?_
  refine (foretells_peekInside hb).bind fun u _ hu _ hhead => ?_
  refine (foretells_drop hu (ne_nil_of_head hhead)).bind fun _ _ hu _ _ => ?_
  refine .ite (fun _ => foretells_failHere hu (by decide) _) fun _ => ?_
  refine (foretells_hexQuad hu).bind fun n _ hn _ _ => ?_
  exact .ite (fun _ => foretells_failHere hn (by decide) _) fun _ => foretells_pure hn trivial

theorem foretells_escapedCodePoint (h : cursor.Goes) :
    escapedCodePoint.Foretells cursor fun _ _ => True := by
  refine (foretells_hexQuad h).bind fun n _ hn _ _ => ?_
  refine .ite (fun _ => foretells_failHere hn (by decide) _) fun _ => .ite (fun _ => ?_) fun _ => ?_
  · exact (foretells_trailingSurrogate hn).bind fun m _ hm _ _ => foretells_pure hm trivial
  · exact foretells_pure hn trivial

theorem foretells_escaped (h : cursor.Goes) : escaped.Foretells cursor fun _ _ => True := by
  refine (foretells_nextInside h).bind fun b _ hb _ _ => ?_
  have hchar (c : Char) : (pure c : Reader Char).Foretells _ fun _ _ => True :=
    foretells_pure hb trivial
  refine .ite (fun _ => hchar _) fun _ => .ite (fun _ => hchar _) fun _ => ?_
  refine .ite (fun _ => hchar _) fun _ => .ite (fun _ => hchar _) fun _ => ?_
  refine .ite (fun _ => hchar _) fun _ => .ite (fun _ => hchar _) fun _ => ?_
  refine .ite (fun _ => hchar _) fun _ => .ite (fun _ => hchar _) fun _ => ?_
  exact .ite (fun _ => foretells_escapedCodePoint hb) fun _ => foretells_failHere hb (by decide) _

theorem foretells_literalTurn (h : cursor.Goes) (draft : Draft) :
    (literalTurn draft).Foretells cursor (Turn.Passes cursor fun _ _ => True) := by
  refine (foretells_span h _).bind fun seen _ hgoes hle ⟨b, hseen, hhead, _⟩ => ?_
  obtain ⟨run, _⟩ := seen
  subst hseen
  refine (foretells_drop hgoes (ne_nil_of_head hhead)).bind fun _ _ hgoes _ hlt => ?_
  refine .ite (fun _ => foretells_pure hgoes trivial) fun _ => .ite (fun _ => ?_) fun _ => ?_
  · refine (foretells_escaped hgoes).bind fun c _ hc hle' _ => foretells_pure hc ?_
    exact Nat.lt_of_le_of_lt hle' (Nat.lt_of_lt_of_le hlt hle)
  · exact foretells_failHere hgoes (by decide) _

theorem finish_lasts {draft : Draft} {place : Place} {fault : Fault}
    (h : draft.finish place = .error fault) : fault.cause.Lasts := by
  unfold Draft.finish at h
  dsimp only at h
  split at h
  · cases h
  · cases h
    exact (by decide : Cause.invalidUnicode.Lasts)

theorem foretells_literal (h : cursor.Goes) : literal.Foretells cursor fun _ _ => True := by
  refine (foretells_loop h (fun draft _ hgoes => foretells_literalTurn hgoes draft) {}).bind
    fun draft after hgoes _ _ => ?_
  cases hf : draft.finish after.place with
  | ok text =>
      exact .reads (Prod.ext hf rfl) hgoes (Nat.le_refl _) trivial fun more ending =>
        Prod.ext hf rfl
  | error fault => exact .faults hf (finish_lasts hf) fun _ _ => hf

/-! ## Numbers -/

theorem foretells_double (h : cursor.Goes) (positive : Bool) (significand : Nat)
    (exponent : Int) : (double positive significand exponent).Foretells cursor fun _ _ => True := by
  unfold double
  cases Double.ofParts? positive significand exponent with
  | some x => exact foretells_pure h trivial
  | none => exact foretells_failHere h (by decide) _

theorem foretells_exponentTurn (h : cursor.Goes) (tooLarge : Bool) (exponent : Option Nat) :
    (exponentTurn tooLarge exponent).Foretells cursor (Turn.Passes cursor fun _ _ => True) := by
  cases exponent with
  | none =>
      refine (foretells_peek h).bind fun seen _ hgoes hle ⟨b, hseen, hhead⟩ => ?_
      subst hseen
      refine .ite (fun _ => ?_) fun _ => foretells_pure hgoes trivial
      refine (foretells_drop hgoes (ne_nil_of_head hhead)).seqRight fun _ _ hgoes _ hlt => ?_
      exact foretells_pure hgoes (Nat.lt_of_lt_of_le hlt hle)
  | some exponent =>
      refine (foretells_peek h).bind fun seen _ hgoes hle ⟨b, hseen, hhead⟩ => ?_
      subst hseen
      refine .ite (fun _ => ?_) fun _ => foretells_pure hgoes trivial
      refine (foretells_drop hgoes (ne_nil_of_head hhead)).bind fun _ _ hgoes _ hlt => ?_
      have hpasses := Nat.lt_of_lt_of_le hlt hle
      refine .ite (fun _ => .ite (fun _ => ?_) fun _ => ?_) fun _ => ?_
      · exact foretells_failHere hgoes (by decide) _
      · exact foretells_pure hgoes hpasses
      · exact foretells_pure hgoes hpasses

theorem foretells_exponentSign (h : cursor.Goes) :
    exponentSign.Foretells cursor fun _ _ => True := by
  refine (foretells_peek h).bind fun seen _ hgoes _ ⟨b, hseen, hhead⟩ => ?_
  subst hseen
  have hsign (up : Bool) : (drop *> pure up).Foretells _ fun _ _ => True :=
    (foretells_drop hgoes (ne_nil_of_head hhead)).seqRight fun _ _ hgoes _ _ =>
      foretells_pure hgoes trivial
  exact .ite (fun _ => hsign _) fun _ => .ite (fun _ => hsign _) fun _ =>
    foretells_pure hgoes trivial

theorem foretells_exponentPart (h : cursor.Goes) (hr : cursor.rest ≠ []) (positive : Bool)
    (significand : Nat) (exponent : Int) :
    (exponentPart positive significand exponent).Foretells cursor fun _ _ => True := by
  refine (foretells_drop h hr).bind fun _ _ hgoes _ _ => ?_
  refine (foretells_exponentSign hgoes).bind fun up _ hgoes _ _ => ?_
  refine (foretells_next hgoes).bind fun seen _ hgoes _ ⟨⟨b, hseen⟩, _⟩ => ?_
  subst hseen
  refine .ite (fun _ => ?_) fun _ => foretells_failHere hgoes (by decide) _
  refine (foretells_loop hgoes (fun exponent _ hgoes => foretells_exponentTurn hgoes _ exponent)
    _).bind fun given _ hgoes _ _ => ?_
  cases given with
  | some given => exact foretells_double hgoes _ _ _
  | none => exact foretells_pure hgoes trivial

theorem foretells_fractionPart (h : cursor.Goes) (hr : cursor.rest ≠ []) (positive : Bool)
    (significand : Nat) (exponent : Int) :
    (fractionPart positive significand exponent).Foretells cursor fun _ _ => True := by
  refine (foretells_drop h hr).bind fun _ _ hgoes _ _ => ?_
  refine (foretells_span hgoes _).bind fun seen _ hgoes _ ⟨b, hseen, hhead, _⟩ => ?_
  obtain ⟨run, _⟩ := seen
  subst hseen
  have hne := ne_nil_of_head hhead
  refine .ite (fun _ => foretells_failAhead hne (by decide) _) fun _ => .ite (fun _ => ?_) fun _ => ?_
  · exact foretells_exponentPart hgoes hne _ _ _
  · exact foretells_double hgoes _ _ _

theorem foretells_afterDigits (h : cursor.Goes) (hr : cursor.rest ≠ []) (positive : Bool)
    (significand excess : Nat) (seen : Option UInt8) :
    (afterDigits positive significand excess seen).Foretells cursor fun _ _ => True := by
  refine .ite (fun _ => foretells_fractionPart h hr _ _ _) fun _ => ?_
  refine .ite (fun _ => foretells_exponentPart h hr _ _ _) fun _ => ?_
  refine .ite (fun _ => foretells_double h _ _ _) fun _ => ?_
  refine .ite (fun _ => foretells_pure h trivial) fun _ => ?_
  exact .ite (fun _ => foretells_pure h trivial) fun _ => foretells_pure h trivial

theorem foretells_numeral (h : cursor.Goes) (positive : Bool) :
    (numeral positive).Foretells cursor fun _ after =>
      after.rest.length < cursor.rest.length := by
  refine (foretells_next h).bind fun seen _ hgoes _ ⟨⟨b, hseen⟩, hlt⟩ => ?_
  subst hseen
  refine .ite (fun _ => ?_) fun _ => .ite (fun _ => ?_) fun _ => ?_
  · refine (foretells_peek hgoes).bind fun seen _ hgoes hle ⟨_, _, hhead⟩ => ?_
    have hne := ne_nil_of_head hhead
    exact .ite (fun _ => foretells_failAhead hne (by decide) _) fun _ =>
      (foretells_afterDigits hgoes hne _ _ _ _).below (Nat.lt_of_le_of_lt hle hlt)
  · refine (foretells_span hgoes _).bind fun seen _ hgoes hle ⟨_, _, hhead, _⟩ => ?_
    exact (foretells_afterDigits hgoes (ne_nil_of_head hhead) _ _ _ _).below
      (Nat.lt_of_le_of_lt hle hlt)
  · exact foretells_failHere hgoes (by decide) _

/-! ## Containers -/

theorem foretells_peekValue (h : cursor.Goes) :
    peekValue.Foretells cursor fun b after => after.rest.head? = some b := by
  refine (foretells_peekPastBlanks h).bind fun seen _ hgoes _ ⟨b, hseen, hhead, _⟩ => ?_
  subst hseen
  exact foretells_pure hgoes hhead

theorem foretells_beginsItem (h : cursor.Goes) (first : Bool) :
    (beginsItem first).Foretells cursor fun goesOn after =>
      goesOn = false → after.rest.head? = some (octet ']') := by
  refine (foretells_peekPastBlanks h).bind fun seen _ hgoes _ ⟨b, hseen, hhead, _⟩ => ?_
  subst hseen
  have hne := ne_nil_of_head hhead
  refine .ite (fun hb => foretells_pure hgoes fun _ => hb ▸ hhead) fun _ => ?_
  refine .ite (fun _ => foretells_pure hgoes nofun) fun _ => .ite (fun _ => ?_) fun _ => ?_
  · refine (foretells_drop hgoes hne).bind fun _ _ hgoes _ _ => ?_
    refine (foretells_peekPastBlanks hgoes).bind fun seen _ hgoes _ ⟨b, hseen, hhead, _⟩ => ?_
    subst hseen
    exact .ite (fun _ => foretells_failAhead (ne_nil_of_head hhead) (by decide) _) fun _ =>
      foretells_pure hgoes nofun
  · exact foretells_failAhead hne (by decide) _

/-- An object that does not go on is at its closing brace, and one that does
is at the quote of a key. -/
theorem foretells_beginsMember (h : cursor.Goes) (first : Bool) :
    (beginsMember first).Foretells cursor fun goesOn after =>
      after.rest.head? = some (if goesOn then octet '"' else octet '\x7d') := by
  refine (foretells_peekPastBlanks h).bind fun seen _ hgoes _ ⟨b, hseen, hhead, _⟩ => ?_
  subst hseen
  have hne := ne_nil_of_head hhead
  refine .ite (fun hb => foretells_pure hgoes (hb ▸ hhead)) fun _ => ?_
  refine .ite (fun _ => ?_) fun _ => .ite (fun _ => ?_) fun _ => ?_
  · exact .ite (fun hb => foretells_pure hgoes (hb ▸ hhead)) fun _ =>
      foretells_failAhead hne (by decide) _
  · refine (foretells_drop hgoes hne).bind fun _ _ hgoes _ _ => ?_
    refine (foretells_peekPastBlanks hgoes).bind fun seen _ hgoes _ ⟨b, hseen, hhead, _⟩ => ?_
    subst hseen
    have hne := ne_nil_of_head hhead
    refine .ite (fun hb => foretells_pure hgoes (hb ▸ hhead)) fun _ => ?_
    exact .ite (fun _ => foretells_failAhead hne (by decide) _) fun _ =>
      foretells_failAhead hne (by decide) _
  · exact foretells_failAhead hne (by decide) _

theorem foretells_colon (h : cursor.Goes) : colon.Foretells cursor fun _ _ => True := by
  refine (foretells_peekPastBlanks h).bind fun seen _ hgoes _ ⟨b, hseen, hhead, _⟩ => ?_
  subst hseen
  have hne := ne_nil_of_head hhead
  exact .ite (fun _ => (foretells_drop hgoes hne).mono fun _ _ _ => trivial) fun _ =>
    foretells_failAhead hne (by decide) _

theorem foretells_key (h : cursor.Goes) (hr : cursor.rest ≠ []) :
    key.Foretells cursor fun _ after => after.rest.length < cursor.rest.length := by
  refine (foretells_drop h hr).bind fun _ _ hgoes _ hlt => ?_
  exact (foretells_literal hgoes).below hlt

theorem foretells_closeList (h : cursor.Goes) (hhead : cursor.rest.head? = some (octet ']')) :
    closeList.Foretells cursor fun _ _ => True := by
  refine (foretells_peekPastBlanks h).bind fun seen _ hgoes _ ⟨b, hseen, hafter, hrest⟩ => ?_
  subst hseen
  obtain ⟨tail, htail⟩ : ∃ tail, cursor.rest = octet ']' :: tail := by
    cases hr : cursor.rest with
    | nil => simp [hr] at hhead
    | cons first tail =>
        rw [hr, List.head?_cons, Option.some.injEq] at hhead
        exact ⟨tail, by rw [hhead]⟩
  have hb : b = octet ']' := by
    rw [hrest, htail, List.dropWhile_cons_of_neg (by decide)] at hafter
    exact (Option.some.inj hafter).symm
  refine .ite (fun _ => ?_) fun hne => absurd hb hne
  exact (foretells_drop hgoes (ne_nil_of_head hafter)).mono fun _ _ _ => trivial

theorem foretells_closeObject (h : cursor.Goes) : closeObject.Foretells cursor fun _ _ => True := by
  refine (foretells_peekPastBlanks h).bind fun seen _ hgoes _ ⟨b, hseen, hhead, _⟩ => ?_
  subst hseen
  have hne := ne_nil_of_head hhead
  refine .ite (fun _ => (foretells_drop hgoes hne).mono fun _ _ _ => trivial) fun _ => ?_
  exact .ite (fun _ => foretells_failAhead hne (by decide) _) fun _ =>
    foretells_failAhead hne (by decide) _

def KeepsDry (reader : Reader α) : Prop :=
  ∀ cursor : Cursor, cursor.dry = true → (reader cursor).2.dry = true

namespace KeepsDry

variable {β : Type}

theorem bind {first : Reader α} {second : α → Reader β} (h : first.KeepsDry)
    (hn : ∀ a, (second a).KeepsDry) : (first >>= second).KeepsDry := by
  intro cursor hd
  have hfirst := h cursor hd
  rw [bind_apply]
  generalize first cursor = ended at hfirst ⊢
  rcases ended with ⟨_ | a, after⟩
  · exact hfirst
  · exact hn a after hfirst

theorem attempt {reader : Reader α} (h : reader.KeepsDry) : reader.attempt.KeepsDry :=
  fun cursor hd => h cursor hd

theorem failAhead (cause : Cause) : (Reader.failAhead cause : Reader α).KeepsDry :=
  fun _ hd => hd

theorem drop : Reader.drop.KeepsDry :=
  fun cursor hd => (pass_dry cursor _).trans hd

theorem peekPastBlanks : Reader.peekPastBlanks.KeepsDry := by
  refine bind (fun cursor hd => ?_) fun _ _ hd => hd
  unfold span
  dsimp only
  split
  · simpa using hd
  · simpa using hd
  · rfl

theorem closeList : Reader.closeList.KeepsDry := by
  refine bind peekPastBlanks fun seen => ?_
  cases seen with
  | none => exact failAhead _
  | some b =>
      dsimp only
      split
      · exact drop
      split
      · refine bind drop fun _ => bind (attempt peekPastBlanks) fun result => ?_
        split
        · split <;> exact failAhead _
        · exact failAhead _
      · exact failAhead _

theorem closeObject : Reader.closeObject.KeepsDry := by
  refine bind peekPastBlanks fun seen => ?_
  cases seen with
  | none => exact failAhead _
  | some b =>
      dsimp only
      split
      · exact drop
      split <;> exact failAhead _

end KeepsDry

/-- A container behind its opening bracket. -/
def inside (content : Reader α) (close : Reader Unit) : Reader α := do
  let outcome ← attempt content
  let closing ← attempt close
  match outcome, closing with
  | .error fault, _ => fail fault
  | .ok _, .error fault => fail fault
  | .ok a, .ok () => pure a

theorem enclosed_eq (content : Reader α) (close : Reader Unit) :
    enclosed content close = drop >>= fun _ => inside content close :=
  rfl

theorem inside_of_error {content : Reader α} {close : Reader Unit} {fault : Fault}
    (h : (content cursor).1 = .error fault) :
    inside content close cursor = (.error fault, (close (content cursor).2).2) := by
  rw [inside, bind_apply, attempt]
  generalize content cursor = ended at h ⊢
  obtain ⟨_, after⟩ := ended
  subst h
  rfl

theorem inside_of_ok {content : Reader α} {close : Reader Unit} {a : α} {after : Cursor}
    (h : content cursor = (.ok a, after)) :
    inside content close cursor = (close >>= fun _ => pure a) after := by
  rw [inside, bind_apply, attempt, h]
  show (attempt close >>= _) after = _
  rw [bind_apply, bind_apply, attempt]
  rcases close after with ⟨_ | _, last⟩ <;> rfl

/-- The content leaves the container where it can be closed.  A fault of the
content stands whatever closing comes to. -/
theorem foretells_inside {content : Reader α} {close : Reader Unit} {P : α → Cursor → Prop}
    (hcontent : content.Foretells cursor P)
    (hclose : ∀ a (after : Cursor), after.Goes → P a after →
      close.Foretells after fun _ _ => True)
    (hdry : close.KeepsDry) : (inside content close).Foretells cursor fun _ _ => True := by
  cases hcontent with
  | @reads a after hnow hgoes hpasses hpost hlater =>
      have hthen : (close >>= fun _ => (pure a : Reader α)).Foretells after fun _ _ => True :=
        (hclose a after hgoes hpost).bind fun _ _ hgoes _ _ => foretells_pure hgoes trivial
      unfold Foretells
      simp only [inside_of_ok hnow, inside_of_ok (hlater _ _)]
      cases hthen with
      | reads hnow hgoes' hpasses' hpost hlater =>
          exact .reads hnow hgoes' (Nat.le_trans hpasses' hpasses) hpost hlater
      | faults hnow hcause hlater => exact .faults hnow hcause hlater
      | runsDry hnow hdry => exact .runsDry hnow hdry
  | faults hnow hcause hlater =>
      refine .faults ?_ hcause fun more ending => ?_
      · rw [inside_of_error hnow]
      · rw [inside_of_error (hlater more ending)]
  | runsDry hnow hd =>
      refine .runsDry ?_ ?_
      · rw [inside_of_error hnow]
      · rw [inside_of_error hnow]
        exact hdry _ hd

theorem foretells_enclosed (h : cursor.Goes) (hr : cursor.rest ≠ []) {content : Reader α}
    {close : Reader Unit} {P : α → Cursor → Prop}
    (hcontent : ∀ start : Cursor, start.Goes → content.Foretells start P)
    (hclose : ∀ a (after : Cursor), after.Goes → P a after →
      close.Foretells after fun _ _ => True)
    (hdry : close.KeepsDry) :
    (enclosed content close).Foretells cursor fun _ after =>
      after.rest.length < cursor.rest.length := by
  rw [enclosed_eq]
  exact (foretells_drop h hr).bind fun _ start hgoes _ hlt =>
    (foretells_inside (hcontent start hgoes) hclose hdry).below hlt

theorem foretells_items {item : Reader α}
    (hitem : ∀ start : Cursor, start.Goes →
      item.Foretells start fun _ after => after.rest.length < start.rest.length)
    (h : cursor.Goes) :
    (items item).Foretells cursor fun _ after => after.rest.head? = some (octet ']') := by
  refine foretells_loop h (fun before start hgoes => ?_) _
  refine (foretells_beginsItem hgoes before.1).bind fun goesOn _ hgoes hle hends => ?_
  cases goesOn with
  | false => exact foretells_pure hgoes (hends rfl)
  | true =>
      refine (hitem _ hgoes).bind fun a _ hgoes _ hlt => foretells_pure hgoes ?_
      exact Nat.lt_of_lt_of_le hlt hle

theorem foretells_members {member : σ → Reader σ}
    (hmember : ∀ state (start : Cursor), start.Goes → start.rest ≠ [] →
      (member state).Foretells start fun _ after => after.rest.length < start.rest.length)
    (h : cursor.Goes) (state : σ) : (members member state).Foretells cursor fun _ _ => True := by
  refine foretells_loop h (fun before start hgoes => ?_) _
  refine (foretells_beginsMember hgoes before.1).bind fun goesOn _ hgoes hle hhead => ?_
  cases goesOn with
  | false => exact foretells_pure hgoes trivial
  | true =>
      refine (hmember _ _ hgoes (ne_nil_of_head hhead)).bind fun state _ hgoes _ hlt =>
        foretells_pure hgoes ?_
      exact Nat.lt_of_lt_of_le hlt hle

theorem foretells_valueMember {value : Reader Value} (before : List (String × Value))
    (hvalue : ∀ start : Cursor, start.Goes →
      value.Foretells start fun _ after => after.rest.length < start.rest.length)
    (h : cursor.Goes) (hr : cursor.rest ≠ []) :
    (valueMember value before).Foretells cursor fun _ after =>
      after.rest.length < cursor.rest.length := by
  refine (foretells_key h hr).bind fun k _ hgoes _ hlt => ?_
  refine (foretells_colon hgoes).bind fun _ _ hgoes hle _ => ?_
  refine (hvalue _ hgoes).bind fun v _ hgoes _ hlt' => foretells_pure hgoes ?_
  exact Nat.lt_trans hlt' (Nat.lt_of_le_of_lt hle hlt)

/-! ## Values and documents -/

theorem foretells_token (h : cursor.Goes) (hr : cursor.rest ≠ []) (letters : List Char) (a : α) :
    (drop *> word letters *> pure a).Foretells cursor fun _ after =>
      after.rest.length < cursor.rest.length := by
  have hword : (drop *> word letters).Foretells cursor fun _ after =>
      after.rest.length < cursor.rest.length :=
    (foretells_drop h hr).seqRight fun _ _ hgoes _ hlt => (foretells_word hgoes letters).below hlt
  exact hword.seqRight fun _ _ hgoes _ hlt => foretells_pure hgoes hlt

theorem foretells_value_of {depth : Nat} (h : cursor.Goes)
    (hinner : depth ≠ 0 → ∀ start : Cursor, start.Goes →
      (value depth).Foretells start fun _ after => after.rest.length < start.rest.length) :
    (value (depth + 1)).Foretells cursor fun _ after =>
      after.rest.length < cursor.rest.length := by
  refine (foretells_peekValue h).bind fun b start hgoes hle hhead => ?_
  have hne := ne_nil_of_head hhead
  have hless {reader : Reader Value}
      (hreader : reader.Foretells start fun _ after => after.rest.length < start.rest.length) :
      reader.Foretells start fun _ after => after.rest.length < cursor.rest.length :=
    hreader.mono fun _ _ hlt => Nat.lt_of_lt_of_le hlt hle
  refine .ite (fun _ => hless (foretells_token hgoes hne _ _)) fun _ => ?_
  refine .ite (fun _ => hless (foretells_token hgoes hne _ _)) fun _ => ?_
  refine .ite (fun _ => hless (foretells_token hgoes hne _ _)) fun _ => ?_
  refine .ite (fun _ => ?_) fun _ => .ite (fun _ => ?_) fun _ => .ite (fun _ => ?_) fun _ =>
    .ite (fun _ => .ite (fun _ => ?_) fun hdepth => ?_) fun _ =>
    .ite (fun _ => .ite (fun _ => ?_) fun hdepth => ?_) fun _ => ?_
  · refine (foretells_drop hgoes hne).seqRight fun _ _ hgoes _ hlt => ?_
    exact (foretells_numeral hgoes false).map fun _ _ hlt' =>
      Nat.lt_trans hlt' (Nat.lt_of_lt_of_le hlt hle)
  · exact hless ((foretells_numeral hgoes true).map fun _ _ hlt => hlt)
  · refine (foretells_drop hgoes hne).seqRight fun _ _ hgoes _ hlt => ?_
    exact ((foretells_literal hgoes).below (Nat.lt_of_lt_of_le hlt hle)).map fun _ _ hlt => hlt
  · exact foretells_failAhead hne (by decide) _
  · refine hless (Foretells.map ?_ fun _ _ hlt => hlt)
    exact foretells_enclosed hgoes hne (fun _ => foretells_items (hinner hdepth))
      (fun _ _ hgoes hhead => foretells_closeList hgoes hhead) .closeList
  · exact foretells_failAhead hne (by decide) _
  · refine hless (Foretells.map ?_ fun _ _ hlt => hlt)
    have hmembers (start : Cursor) (hgoes : start.Goes) :=
      foretells_members (fun before _ => foretells_valueMember before (hinner hdepth)) hgoes []
    exact foretells_enclosed hgoes hne hmembers
      (fun _ _ hgoes _ => foretells_closeObject hgoes) .closeObject
  · exact foretells_failAhead hne (by decide) _

/-- A value passes at least one octet. -/
theorem foretells_value (depth : Nat) : ∀ {cursor : Cursor}, cursor.Goes →
    (value (depth + 1)).Foretells cursor fun _ after =>
      after.rest.length < cursor.rest.length := by
  induction depth with
  | zero => exact fun h => foretells_value_of h fun hne => absurd rfl hne
  | succ depth ih => exact fun h => foretells_value_of h fun _ _ => ih

/-- The octets of a document that may go on are never a whole document. -/
theorem foretells_document {content : Reader α} {P : α → Cursor → Prop}
    (hcontent : content.Foretells cursor P) :
    (document content).Foretells cursor fun _ _ => False := by
  refine hcontent.bind fun a _ hgoes _ _ => ?_
  refine Foretells.bind (P := fun _ _ => False) ?_ fun _ _ _ _ hfalse => hfalse.elim
  refine (foretells_peekPastBlanks hgoes).bind fun seen _ _ _ ⟨b, hseen, hhead, _⟩ => ?_
  subst hseen
  exact foretells_failAhead (ne_nil_of_head hhead) (by decide) _

end OciBlobs.Json.Reader
