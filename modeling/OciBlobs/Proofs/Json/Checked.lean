/-
# `Proofs.Json.Checked` — what a further check accepts

A checked decoder takes what its inner decoder takes and the check accepts
(`checked_ofText`).  In a list the check stands between the items, and where it
refuses one the reader stops; but as long as it accepts, the reader goes along
with the one that does not check (`Reader.Refines`), so a list of checked items
is the checked list of items (`list_checked_ofText`).
-/
import Mathlib.Data.List.Forall2
import OciBlobs.Json.Decoder
import OciBlobs.Proofs.Json.Record
import OciBlobs.Proofs.Json.Value

namespace OciBlobs.Json

variable {α β γ δ σ τ : Type}

/-! ## Readers that go along with others -/

namespace Reader

variable {cursor after : Cursor}

theorem bind_eq_ok {first : Reader α} {next : α → Reader β} {b : β}
    (h : (first >>= next) cursor = (.ok b, after)) :
    ∃ a mid, first cursor = (.ok a, mid) ∧ next a mid = (.ok b, after) := by
  rw [bind_apply] at h
  generalize first cursor = ended at h ⊢
  rcases ended with ⟨_ | _, mid⟩
  · cases h
  · exact ⟨_, _, rfl, h⟩

theorem bind_of_ok {first : Reader α} {a : α} {mid : Cursor} (h : first cursor = (.ok a, mid))
    (next : α → Reader β) : (first >>= next) cursor = next a mid := by
  rw [bind_apply, h]

theorem ofExcept_apply (result : Except Fault α) (cursor : Cursor) :
    ofExcept result cursor = (result, cursor) := by
  cases result <;> rfl

/-- The reader takes nothing. -/
def Fails (reader : Reader α) : Prop :=
  ∀ cursor a after, reader cursor ≠ (.ok a, after)

namespace Fails

theorem fail (fault : Fault) : (Reader.fail fault : Reader α).Fails :=
  fun _ _ _ => nofun

theorem failHere (cause : Cause) : (Reader.failHere cause : Reader α).Fails :=
  fun _ _ _ => nofun

theorem failAhead (cause : Cause) : (Reader.failAhead cause : Reader α).Fails :=
  fun _ _ _ => nofun

theorem andThen {first : Reader α} {next : α → Reader β} (h : ∀ a, (next a).Fails) :
    (first >>= next).Fails := by
  intro cursor b last hread
  obtain ⟨a, mid, -, hread⟩ := bind_eq_ok hread
  exact h a mid b last hread

theorem seqRight {first : Reader α} {second : Reader β} (h : second.Fails) :
    (first *> second).Fails :=
  andThen fun _ => h

theorem ite {p : Prop} [Decidable p] {reader other : Reader α} (h : reader.Fails)
    (h' : other.Fails) : (if p then reader else other).Fails := by
  split
  · exact h
  · exact h'

theorem mismatch (expected : String) : (Reader.mismatch expected : Reader α).Fails := by
  refine andThen fun seen => ?_
  cases seen with
  | none => exact .failAhead _
  | some b =>
      -- a scalar is read to its end, a container is not entered
      refine .ite (.seqRight (.fail _)) <| .ite (.seqRight (.fail _)) <|
        .ite (.seqRight (.fail _)) <| .ite ?_ <| .ite ?_ <| .ite ?_ <|
          .ite (.fail _) <| .ite (.fail _) (.failAhead _)
      · exact andThen fun _ => andThen fun _ => .fail _
      · exact andThen fun _ => .fail _
      · exact andThen fun _ => andThen fun _ => .fail _

end Fails

theorem document_eq_ok {content : Reader α} {a : α} :
    document content cursor = (.ok a, after) ↔
      ∃ mid, content cursor = (.ok a, mid) ∧ finish mid = (.ok (), after) := by
  constructor
  · intro h
    obtain ⟨b, mid, hcontent, h⟩ := bind_eq_ok h
    obtain ⟨_, last, hfinish, h⟩ := bind_eq_ok h
    cases h
    exact ⟨mid, hcontent, hfinish⟩
  · rintro ⟨mid, hcontent, hfinish⟩
    rw [document, bind_of_ok hcontent, bind_of_ok hfinish]
    rfl

/-- What the second reader takes stands for something that the first one takes
from the same octets. -/
def Refines (R : α → β → Prop) (coarse : Reader α) (fine : Reader β) : Prop :=
  ∀ cursor b after, fine cursor = (.ok b, after) →
    ∃ a, coarse cursor = (.ok a, after) ∧ R a b

namespace Refines

variable {R : α → β → Prop} {S : γ → δ → Prop}

theorem refl (reader : Reader α) : Refines Eq reader reader :=
  fun _ b _ h => ⟨b, h, rfl⟩

theorem pure {a : α} {b : β} (h : R a b) : Refines R (Pure.pure a) (Pure.pure b) := by
  intro cursor _ after hread
  cases hread
  exact ⟨a, rfl, h⟩

theorem of_fails {coarse : Reader α} {fine : Reader β} (h : fine.Fails) : Refines R coarse fine :=
  fun cursor b after hread => absurd hread (h cursor b after)

theorem bind {coarse : Reader α} {fine : Reader β} {next : α → Reader γ} {next' : β → Reader δ}
    (h : Refines R coarse fine) (hnext : ∀ a b, R a b → Refines S (next a) (next' b)) :
    Refines S (coarse >>= next) (fine >>= next') := by
  intro cursor d after hread
  obtain ⟨b, mid, hfine, hread⟩ := bind_eq_ok hread
  obtain ⟨a, hcoarse, hR⟩ := h cursor b mid hfine
  obtain ⟨c, hlast, hS⟩ := hnext a b hR mid d after hread
  exact ⟨c, (bind_of_ok hcoarse next).trans hlast, hS⟩

theorem ite {p : Prop} [Decidable p] {coarse other : Reader α} {fine other' : Reader β}
    (h : Refines R coarse fine) (h' : Refines R other other') :
    Refines R (if p then coarse else other) (if p then fine else other') := by
  split
  · exact h
  · exact h'

theorem located {coarse : Reader α} {fine : Reader β} (h : Refines R coarse fine) :
    Refines R coarse.located fine.located := by
  intro cursor b after hread
  rw [Reader.located] at hread
  generalize hfine : fine cursor = ended at hread
  rcases ended with ⟨_ | _, mid⟩
  · cases hread
  · cases hread
    obtain ⟨a, hcoarse, hR⟩ := h cursor b after hfine
    exact ⟨a, by rw [Reader.located, hcoarse], hR⟩

theorem enclosed {coarse : Reader α} {fine : Reader β} (h : Refines R coarse fine)
    (close : Reader Unit) :
    Refines R (Reader.enclosed coarse close) (Reader.enclosed fine close) := by
  rw [enclosed_eq, enclosed_eq]
  refine (refl drop).bind fun _ _ _ => ?_
  intro cursor b after hread
  cases hfine : fine cursor with | mk outcome mid => ?_
  cases outcome with
  | error fault =>
      rw [inside_of_error (congrArg Prod.fst hfine)] at hread
      cases hread
  | ok b' =>
      rw [inside_of_ok hfine] at hread
      obtain ⟨_, last, hclose, hread⟩ := bind_eq_ok hread
      cases hread
      obtain ⟨a, hcoarse, hR⟩ := h cursor b mid hfine
      refine ⟨a, ?_, hR⟩
      rw [inside_of_ok hcoarse, bind_of_ok hclose]
      rfl

/-- What one turn of a loop comes to, related. -/
inductive Turns (S : σ → τ → Prop) (R : α → β → Prop) : Turn σ α → Turn τ β → Prop
  | again {s : σ} {t : τ} (h : S s t) : Turns S R (.again s) (.again t)
  | done {a : α} {b : β} (h : R a b) : Turns S R (.done a) (.done b)

theorem loop {S : σ → τ → Prop} {step : σ → Reader (Turn σ α)} {step' : τ → Reader (Turn τ β)}
    (h : ∀ s t, S s t → Refines (Turns S R) (step s) (step' t)) {s : σ} {t : τ} (hs : S s t) :
    Refines R (Reader.loop step s) (Reader.loop step' t) := by
  have hturns : ∀ fuel s t, S s t → Refines R (turns step fuel s) (turns step' fuel t) := by
    intro fuel
    induction fuel with
    | zero => exact fun _ _ _ => .of_fails (.failHere _)
    | succ fuel ih =>
        intro s t hs
        refine (h s t hs).bind fun turn turn' hturn => ?_
        cases hturn with
        | again hs => exact ih _ _ hs
        | done hR => exact .pure hR
  exact fun cursor => hturns (cursor.rest.length + 1) s t hs cursor

theorem items {coarse : Reader α} {fine : Reader β} (h : Refines R coarse fine) :
    Refines (List.Forall₂ R) (Reader.items coarse) (Reader.items fine) := by
  -- the items before are kept in reverse
  let S (before : Bool × List α) (before' : Bool × List β) : Prop :=
    before.1 = before'.1 ∧ List.Forall₂ R before.2.reverse before'.2.reverse
  refine loop (S := S) (fun before before' hS => ?_) ⟨rfl, .nil⟩
  obtain ⟨first, read⟩ := before
  obtain ⟨first', read'⟩ := before'
  obtain ⟨rfl, hread⟩ := hS
  refine (refl (beginsItem first)).bind fun begins begins' hbegins => ?_
  subst hbegins
  refine .ite (h.bind fun a b hR => .pure (.again ⟨rfl, ?_⟩)) (.pure (.done hread))
  rw [List.reverse_cons, List.reverse_cons]
  exact List.rel_append hread (.cons hR .nil)

end Refines

end Reader

/-! ## Checks -/

namespace Decoder

open Reader

variable {inner : Decoder α} {accept : α → Except Fault β}

theorem ofText_eq_ok {decoder : Decoder α} {text : String} {a : α} :
    decoder.ofText text = .ok a ↔
      ∃ mid after, decoder.read depthLimit ⟨Utf8.ofString text, {}, false, false, .text, .closed⟩ =
        (.ok a, mid) ∧ finish mid = (.ok (), after) := by
  unfold ofText readText
  constructor
  · intro h
    obtain ⟨mid, hread, hfinish⟩ := document_eq_ok.mp (Prod.ext h rfl)
    exact ⟨mid, _, hread, hfinish⟩
  · rintro ⟨mid, after, hread, hfinish⟩
    exact congrArg Prod.fst (document_eq_ok.mpr ⟨mid, hread, hfinish⟩)

/-- What goes along with a decoder takes what that takes of a whole text. -/
theorem ofText_of_refines {R : α → β → Prop} {coarse : Decoder α} {fine : Decoder β}
    (h : Refines R (coarse.read depthLimit) (fine.read depthLimit)) {text : String} {b : β}
    (hread : fine.ofText text = .ok b) : ∃ a, coarse.ofText text = .ok a ∧ R a b := by
  obtain ⟨mid, after, hfine, hfinish⟩ := ofText_eq_ok.mp hread
  obtain ⟨a, hcoarse, hR⟩ := h _ b mid hfine
  exact ⟨a, ofText_eq_ok.mpr ⟨mid, after, hcoarse, hfinish⟩, hR⟩

theorem refines_checked (inner : Decoder α) (accept : α → Except Fault β) (depth : Nat) :
    Refines (fun a b => accept a = .ok b) (inner.read depth)
      ((checked inner accept).read depth) := by
  intro cursor b after h
  obtain ⟨a, mid, hinner, h⟩ := bind_eq_ok h
  rw [ofExcept_apply, Prod.mk.injEq] at h
  obtain ⟨haccept, rfl⟩ := h
  exact ⟨a, hinner, haccept⟩

/-- What is taken with a check is what is taken without it and accepted. -/
theorem checked_ofText {text : String} {b : β} :
    (checked inner accept).ofText text = .ok b ↔
      ∃ a, inner.ofText text = .ok a ∧ accept a = .ok b := by
  constructor
  · exact ofText_of_refines (refines_checked inner accept depthLimit)
  · rintro ⟨a, hinner, haccept⟩
    obtain ⟨mid, after, hread, hfinish⟩ := ofText_eq_ok.mp hinner
    refine ofText_eq_ok.mpr ⟨mid, after, ?_, hfinish⟩
    show (inner.read depthLimit >>= fun a => Reader.ofExcept (accept a)) _ = _
    rw [bind_of_ok hread, ofExcept_apply, haccept]

/-- A list of checked items is a list of items, each of which is accepted. -/
theorem list_checked_ofText {text : String} {bs : List β}
    (h : (list (checked inner accept)).ofText text = .ok bs) :
    ∃ as, (list inner).ofText text = .ok as ∧
      List.Forall₂ (fun a b => accept a = .ok b) as bs := by
  refine ofText_of_refines (.located (.bind (.refl peekValue) fun b _ hb => ?_)) h
  subst hb
  refine .ite (.ite (.of_fails (.failAhead _)) (.enclosed (.items ?_) closeList))
    (.of_fails (.mismatch _))
  exact refines_checked inner accept _

theorem Takes.checked {depth : Nat} {value : Value} {a : α} {b : β}
    (h : inner.Takes depth value a) (haccept : accept a = .ok b) :
    (Decoder.checked inner accept).Takes depth value b := by
  intro rest hrest
  refine (h rest hrest).bind ?_
  rw [haccept]
  exact reads_pure b rest

end Decoder

end OciBlobs.Json
