/-
# `Proofs.Json.Foretold` — what the first octets of a document foretell

A reader that is given the octets which have arrived so far stops when it
looks beyond them.  If it does not, then what it found is what it finds with
any octets behind them, whether they end there or not (`Foretold`):

    reads     it read something, and goes on from the same octet
    faults    it found a fault, and the fault is not an early end
    runsDry   it looked beyond the octets in hand

Readers are sequenced by `Reader.Foretells.bind`, and a loop is foretold when
its turns are and each of them passes an octet (`Reader.foretells_loop`).
-/
import OciBlobs.Json.Reader

namespace OciBlobs.Json

namespace Cursor

/-- The cursor with more octets behind its own. -/
def extend (cursor : Cursor) (more : Bytes) (ending : Ending) : Cursor :=
  { cursor with rest := cursor.rest ++ more, ending }

/-- A cursor whose source goes on, and that did not run dry. -/
structure Goes (cursor : Cursor) : Prop where
  ending : cursor.ending = .unknown
  dry : cursor.dry = false
  /-- An octet that was looked at is in hand. -/
  held : cursor.held = true → cursor.rest ≠ []

variable {cursor : Cursor} {b : UInt8}

theorem Goes.here_extend (h : cursor.Goes) (more : Bytes) (ending : Ending) :
    (cursor.extend more ending).here = cursor.here := by
  have hheld := h.held
  cases hr : cursor.rest with
  | nil =>
      have : cursor.held = false := by
        cases hc : cursor.held with
        | false => rfl
        | true => exact absurd hr (hheld hc)
      simp [here, extend, this]
  | cons b rest =>
      simp only [here, extend, hr, List.cons_append]
      cases cursor.feed <;> cases cursor.held <;> rfl

theorem ahead_extend (h : cursor.rest ≠ []) (more : Bytes) (ending : Ending) :
    (cursor.extend more ending).ahead = cursor.ahead := by
  cases hr : cursor.rest with
  | nil => exact absurd hr h
  | cons b rest => simp [ahead, extend, hr]

theorem pass_extend {run : Bytes} (h : run.length ≤ cursor.rest.length) (more : Bytes)
    (ending : Ending) :
    (cursor.extend more ending).pass run = (cursor.pass run).extend more ending := by
  cases run with
  | nil => rfl
  | cons b rest =>
      simp only [pass, extend]
      rw [List.drop_append_of_le_length h]

end Cursor

/-- The cause is neither an early end nor a source that ran dry. -/
def Cause.Lasts (cause : Cause) : Prop :=
  cause.category ≠ .eof ∧ cause.category ≠ .source
deriving Decidable

/-- What a reader comes to at `cursor`, `now`, foretells what it comes to with
more octets, `later`. -/
inductive Foretold {α : Type} (cursor : Cursor) (Q : α → Cursor → Prop)
    (now : Except Fault α × Cursor) (later : Bytes → Ending → Except Fault α × Cursor) : Prop
  | reads {a : α} {after : Cursor} (hnow : now = (.ok a, after)) (hgoes : after.Goes)
      (hpasses : after.rest.length ≤ cursor.rest.length) (hpost : Q a after)
      (hlater : ∀ more ending, later more ending = (.ok a, after.extend more ending))
  | faults {fault : Fault} (hnow : now.1 = .error fault) (hcause : fault.cause.Lasts)
      (hlater : ∀ more ending, (later more ending).1 = .error fault)
  | runsDry (hnow : now.1 = .error ⟨.unread, none⟩) (hdry : now.2.dry = true)

namespace Reader

variable {α β σ : Type} {cursor : Cursor}

theorem bind_apply (first : Reader α) (second : α → Reader β) (cursor : Cursor) :
    (first >>= second) cursor = match first cursor with
      | (.ok a, cursor) => second a cursor
      | (.error fault, cursor) => (.error fault, cursor) :=
  rfl

theorem bind_of_error {first : Reader α} {fault : Fault}
    (h : (first cursor).1 = .error fault) (second : α → Reader β) :
    (first >>= second) cursor = (.error fault, (first cursor).2) := by
  rw [bind_apply, show first cursor = (.error fault, (first cursor).2) from Prod.ext h rfl]

/-- The reader foretells, and what it reads satisfies `Q`. -/
def Foretells (reader : Reader α) (cursor : Cursor) (Q : α → Cursor → Prop) : Prop :=
  Foretold cursor Q (reader cursor) fun more ending => reader (cursor.extend more ending)

theorem Foretells.mono {reader : Reader α} {P Q : α → Cursor → Prop}
    (h : reader.Foretells cursor P) (hPQ : ∀ a after, P a after → Q a after) :
    reader.Foretells cursor Q := by
  cases h with
  | reads hnow hgoes hpasses hpost hlater =>
      exact .reads hnow hgoes hpasses (hPQ _ _ hpost) hlater
  | faults hnow hcause hlater => exact .faults hnow hcause hlater
  | runsDry hnow hdry => exact .runsDry hnow hdry

/-- Where a reader begins, fewer octets than `count` are left, and so they are
where it ends. -/
theorem Foretells.below {reader : Reader α} {P : α → Cursor → Prop} {count : Nat}
    (h : reader.Foretells cursor P) (hlt : cursor.rest.length < count) :
    reader.Foretells cursor fun _ after => after.rest.length < count := by
  cases h with
  | reads hnow hgoes hpasses _ hlater =>
      exact .reads hnow hgoes hpasses (Nat.lt_of_le_of_lt hpasses hlt) hlater
  | faults hnow hcause hlater => exact .faults hnow hcause hlater
  | runsDry hnow hdry => exact .runsDry hnow hdry

theorem foretells_pure (h : cursor.Goes) {Q : α → Cursor → Prop} {a : α} (hq : Q a cursor) :
    (pure a : Reader α).Foretells cursor Q :=
  .reads rfl h (Nat.le_refl _) hq fun _ _ => rfl

theorem foretells_failHere (h : cursor.Goes) {cause : Cause} (hc : cause.Lasts)
    (Q : α → Cursor → Prop) : (failHere cause : Reader α).Foretells cursor Q :=
  .faults rfl hc fun more ending => by
    simp only [failHere]
    rw [h.here_extend]

theorem foretells_failAhead (h : cursor.rest ≠ []) {cause : Cause} (hc : cause.Lasts)
    (Q : α → Cursor → Prop) : (failAhead cause : Reader α).Foretells cursor Q :=
  .faults rfl hc fun more ending => by
    simp only [failAhead]
    rw [Cursor.ahead_extend h]

/-- One reader after another; the second may look at how much comes later. -/
theorem Foretells.andThen {first : Reader α} {second : α → Reader β} {P : α → Cursor → Prop}
    {Q : β → Cursor → Prop} (h : first.Foretells cursor P) (later : α → Bytes → Reader β)
    (hn : ∀ a after, after.Goes → after.rest.length ≤ cursor.rest.length → P a after →
      Foretold after Q (second a after) fun more ending => later a more (after.extend more ending)) :
    Foretold cursor Q ((first >>= second) cursor) fun more ending =>
      (first >>= fun a => later a more) (cursor.extend more ending) := by
  cases h with
  | @reads a after hnow hgoes hpasses hpost hlater =>
      simp only [bind_apply, hnow, hlater]
      cases hn a after hgoes hpasses hpost with
      | reads hnow hgoes' hpasses' hpost hlater =>
          exact .reads hnow hgoes' (Nat.le_trans hpasses' hpasses) hpost hlater
      | faults hnow hcause hlater => exact .faults hnow hcause hlater
      | runsDry hnow hdry => exact .runsDry hnow hdry
  | faults hnow hcause hlater =>
      refine .faults ?_ hcause fun more ending => ?_
      · rw [bind_of_error hnow]
      · rw [bind_of_error (hlater more ending)]
  | runsDry hnow hdry =>
      refine .runsDry ?_ ?_
      · rw [bind_of_error hnow]
      · rw [bind_of_error hnow]
        exact hdry

theorem Foretells.bind {first : Reader α} {second : α → Reader β} {P : α → Cursor → Prop}
    {Q : β → Cursor → Prop} (h : first.Foretells cursor P)
    (hn : ∀ a after, after.Goes → after.rest.length ≤ cursor.rest.length → P a after →
      (second a).Foretells after Q) :
    (first >>= second).Foretells cursor Q :=
  h.andThen (fun a _ => second a) hn

theorem Foretells.seqRight {first : Reader α} {second : Reader β} {P : α → Cursor → Prop}
    {Q : β → Cursor → Prop} (h : first.Foretells cursor P)
    (hn : ∀ a after, after.Goes → after.rest.length ≤ cursor.rest.length → P a after →
      second.Foretells after Q) :
    (first *> second).Foretells cursor Q :=
  h.bind hn

theorem Foretells.map {reader : Reader α} {f : α → β} {P : α → Cursor → Prop}
    {Q : β → Cursor → Prop} (h : reader.Foretells cursor P)
    (hPQ : ∀ a after, P a after → Q (f a) after) : (f <$> reader).Foretells cursor Q :=
  h.bind fun a _ hgoes _ hp => foretells_pure hgoes (hPQ a _ hp)

theorem Foretells.ite {c : Prop} [Decidable c] {reader other : Reader α}
    {Q : α → Cursor → Prop} (h : c → reader.Foretells cursor Q)
    (h' : ¬c → other.Foretells cursor Q) :
    (if c then reader else other).Foretells cursor Q := by
  split
  · exact h ‹_›
  · exact h' ‹_›

/-! ## Octets -/

theorem pass_takeWhile (cursor : Cursor) (p : UInt8 → Bool) :
    (cursor.pass (cursor.rest.takeWhile p)).rest = cursor.rest.dropWhile p := by
  have hdrop : (cursor.rest.takeWhile p ++ cursor.rest.dropWhile p).drop
      (cursor.rest.takeWhile p).length = cursor.rest.dropWhile p :=
    List.drop_left
  rw [List.takeWhile_append_dropWhile] at hdrop
  cases hrun : cursor.rest.takeWhile p with
  | nil => rwa [hrun] at hdrop
  | cons b run => rwa [hrun] at hdrop

@[simp] theorem pass_ending (cursor : Cursor) (run : Bytes) :
    (cursor.pass run).ending = cursor.ending := by
  cases run <;> rfl

@[simp] theorem pass_dry (cursor : Cursor) (run : Bytes) :
    (cursor.pass run).dry = cursor.dry := by
  cases run <;> rfl

theorem takeWhile_extend {p : UInt8 → Bool} {octets : Bytes} (h : octets.dropWhile p ≠ [])
    (more : Bytes) : (octets ++ more).takeWhile p = octets.takeWhile p := by
  rw [List.takeWhile_append, if_neg]
  intro hlength
  have hsplit := congrArg List.length (List.takeWhile_append_dropWhile (p := p) (l := octets))
  rw [List.length_append, hlength] at hsplit
  exact h (List.eq_nil_of_length_eq_zero (by omega))

theorem span_of_found {p : UInt8 → Bool} {b : UInt8} {rest : Bytes}
    (h : (cursor.pass (cursor.rest.takeWhile p)).rest = b :: rest) :
    span p cursor = (.ok (cursor.rest.takeWhile p, some b),
      { cursor.pass (cursor.rest.takeWhile p) with held := true }) := by
  simp [span, h]

/-- The octet behind a stretch is found, or the octets in hand end first. -/
theorem foretells_span (h : cursor.Goes) (p : UInt8 → Bool) :
    (span p).Foretells cursor fun seen after =>
      ∃ b, seen.2 = some b ∧ after.rest.head? = some b ∧
        after.rest = cursor.rest.dropWhile p := by
  have hpass := pass_takeWhile cursor p
  have hsplit := congrArg List.length (List.takeWhile_append_dropWhile (p := p) (l := cursor.rest))
  cases hd : cursor.rest.dropWhile p with
  | nil =>
      rw [hd] at hpass
      have hspan : span p cursor = (.error ⟨.unread, none⟩,
          { cursor.pass (cursor.rest.takeWhile p) with dry := true }) := by
        simp [span, hpass, h.ending]
      exact .runsDry (by rw [hspan]) (by rw [hspan])
  | cons b rest =>
      have hkeep (more : Bytes) := takeWhile_extend (hd ▸ List.cons_ne_nil b rest) more
      rw [hd] at hpass
      have hspan := span_of_found hpass
      have hrun : (cursor.rest.takeWhile p).length ≤ cursor.rest.length := by
        rw [← hsplit, List.length_append]
        exact Nat.le_add_right ..
      have hgoes : { cursor.pass (cursor.rest.takeWhile p) with held := true }.Goes :=
        ⟨by simp [h.ending], by simp [h.dry], fun _ => by simp [hpass]⟩
      refine .reads hspan hgoes ?_ ⟨b, rfl, by simp [hpass], hpass⟩
        fun more ending => ?_
      · show (cursor.pass _).rest.length ≤ _
        rw [hpass, ← hsplit, hd, List.length_append]
        exact Nat.le_add_left ..
      · have hsame : (cursor.extend more ending).rest.takeWhile p = cursor.rest.takeWhile p :=
          hkeep more
        have hrest : ((cursor.extend more ending).pass
            ((cursor.extend more ending).rest.takeWhile p)).rest = b :: (rest ++ more) := by
          rw [hsame, Cursor.pass_extend hrun]
          simp [Cursor.extend, hpass]
        rw [span_of_found hrest, hsame, Cursor.pass_extend hrun]
        rfl

theorem ne_nil_of_head {b : UInt8} {octets : Bytes} (h : octets.head? = some b) :
    octets ≠ [] := by
  rintro rfl
  cases h

theorem foretells_peek (h : cursor.Goes) :
    peek.Foretells cursor fun seen after =>
      ∃ b, seen = some b ∧ after.rest.head? = some b := by
  refine (foretells_span h _).bind fun seen after hgoes _ ⟨b, hseen, hhead, _⟩ => ?_
  exact foretells_pure hgoes ⟨b, hseen, hhead⟩

theorem foretells_drop (h : cursor.Goes) (hr : cursor.rest ≠ []) :
    drop.Foretells cursor fun _ after => after.rest.length < cursor.rest.length := by
  cases hrest : cursor.rest with
  | nil => exact absurd hrest hr
  | cons b rest =>
      have hdrop : drop cursor = (.ok (), cursor.pass [b]) := by simp [drop, hrest]
      refine .reads hdrop ⟨h.ending, h.dry, nofun⟩ ?_ ?_ fun more ending => ?_
      · simp [Cursor.pass, hrest]
      · simp [Cursor.pass, hrest]
      · simp [drop, Cursor.pass, Cursor.extend, hrest]

theorem foretells_next (h : cursor.Goes) :
    next.Foretells cursor fun seen after =>
      (∃ b, seen = some b) ∧ after.rest.length < cursor.rest.length := by
  refine (foretells_peek h).bind fun seen after hgoes hle ⟨b, hseen, hhead⟩ => ?_
  refine (foretells_drop hgoes (ne_nil_of_head hhead)).bind fun _ _ hgoes' _ hlt => ?_
  exact foretells_pure hgoes' ⟨⟨b, hseen⟩, Nat.lt_of_lt_of_le hlt hle⟩

theorem foretells_peekPastBlanks (h : cursor.Goes) :
    peekPastBlanks.Foretells cursor fun seen after =>
      ∃ b, seen = some b ∧ after.rest.head? = some b ∧
        after.rest = cursor.rest.dropWhile isBlank :=
  (foretells_span h _).bind fun _ _ hgoes _ hpost => foretells_pure hgoes hpost

theorem foretells_word (h : cursor.Goes) (letters : List Char) :
    (word letters).Foretells cursor fun _ _ => True := by
  induction letters generalizing cursor with
  | nil => exact foretells_pure h trivial
  | cons c rest ih =>
      refine (foretells_next h).bind fun seen after hgoes _ ⟨⟨b, hseen⟩, _⟩ => ?_
      subst hseen
      refine .ite (fun _ => ih hgoes) fun _ => ?_
      exact foretells_failHere hgoes (by decide) _

/-! ## Loops -/

/-- A turn that is not the last passes an octet, and the last one comes to
what satisfies `Q`. -/
def Turn.Passes (cursor : Cursor) (Q : β → Cursor → Prop) : Turn σ β → Cursor → Prop
  | .again _, after => after.rest.length < cursor.rest.length
  | .done b, after => Q b after

/-- A loop is foretold if every turn is, and every turn but the last passes an
octet. -/
theorem foretells_turns {step : σ → Reader (Turn σ β)} {Q : β → Cursor → Prop}
    (hstep : ∀ state (cursor : Cursor), cursor.Goes →
      (step state).Foretells cursor (Turn.Passes cursor Q)) :
    ∀ (fuel : Nat) (state : σ) {cursor : Cursor}, cursor.Goes → cursor.rest.length < fuel →
      Foretold cursor Q (turns step fuel state cursor) fun more ending =>
        turns step (more.length + fuel) state (cursor.extend more ending) := by
  intro fuel
  induction fuel with
  | zero => exact fun _ _ _ hlt => absurd hlt (Nat.not_lt_zero _)
  | succ fuel ih =>
      intro state cursor h hlt
      refine (hstep state cursor h).andThen
        (fun turn more => turn.result (turns step (more.length + fuel)))
        fun turn after hgoes _ hpost => ?_
      cases turn with
      | again state => exact ih state hgoes (Nat.lt_of_lt_of_le hpost (Nat.le_of_lt_succ hlt))
      | done b => exact .reads rfl hgoes (Nat.le_refl _) hpost fun _ _ => rfl

theorem foretells_loop {step : σ → Reader (Turn σ β)} {Q : β → Cursor → Prop}
    (h : cursor.Goes)
    (hstep : ∀ state (cursor : Cursor), cursor.Goes →
      (step state).Foretells cursor (Turn.Passes cursor Q)) (state : σ) :
    (loop step state).Foretells cursor Q := by
  have ht := foretells_turns hstep (cursor.rest.length + 1) state h (Nat.lt_succ_self _)
  have hfuel (more : Bytes) (ending : Ending) :
      loop step state (cursor.extend more ending) =
        turns step (more.length + (cursor.rest.length + 1)) state (cursor.extend more ending) := by
    show turns step ((cursor.rest ++ more).length + 1) state _ = _
    rw [List.length_append]
    congr 1
    omega
  unfold Foretells
  simp only [hfuel]
  exact ht

end Reader

end OciBlobs.Json
