/-
# `Proofs.Url.Host.Composed` — texts that are in composed form

Most characters are made of no others, belong to no one before them, and change
nothing around them (`Inert`).  A text of such characters alone is in composed form
(`compose_of_inert`).
-/
import OciBlobs.Url.Host.Composed

namespace OciBlobs.Url

variable {text : List Char} {c : Char}

namespace Composed

/-- A character that is made of no others, is no mark of a class, and joins with
nothing before it. -/
structure Inert (c : Char) : Prop where
  parts : parts? c = none
  order : Mark.order c = 0
  join : ∀ base, join? base c = none

theorem Inert.decompose (h : Inert c) : decompose c = [c] := by
  delta Composed.decompose
  rw [h.parts]

theorem Inert.place (h : Inert c) (before : List Char) : place c before = c :: before := by
  cases before with
  | nil => rfl
  | cons last before => exact if_neg fun hc => hc.1 h.order

/-- Such a character is the base of what follows it, whatever was there before. -/
theorem Inert.add (h : Inert c) (draft : Draft) : draft.add c =
    { base := some c, before := draft.marks ++ draft.base.toList ++ draft.before } := by
  have hbind : (draft.base.bind fun base =>
      if draft.marks.head?.all (Mark.order · < Mark.order c) then join? base c else none) =
        none := by
    cases draft.base with
    | none => rfl
    | some base => rw [Option.bind_some, h.join base, ite_self]
  delta Draft.add
  dsimp only
  rw [hbind]
  exact if_pos h.order

theorem flatMap_of_inert (h : ∀ c ∈ text, Inert c) : text.flatMap decompose = text := by
  induction text with
  | nil => rfl
  | cons c rest ih =>
      rw [List.flatMap_cons, (h c List.mem_cons_self).decompose,
        ih fun d hd => h d (List.mem_cons_of_mem c hd)]
      rfl

theorem ordered_of_inert (h : ∀ c ∈ text, Inert c) : ordered text = text := by
  have hplaced (before : List Char) :
      text.foldl (fun before c => place c before) before = text.reverse ++ before := by
    induction text generalizing before with
    | nil => rfl
    | cons c rest ih =>
        rw [List.foldl_cons, (h c List.mem_cons_self).place,
          ih fun d hd => h d (List.mem_cons_of_mem c hd), List.reverse_cons,
          List.append_assoc, List.singleton_append]
  rw [ordered, hplaced, List.append_nil, List.reverse_reverse]

theorem text_of_inert (h : ∀ c ∈ text, Inert c) (draft : Draft) :
    (text.foldl Draft.add draft).text = draft.text ++ text := by
  induction text generalizing draft with
  | nil => exact (List.append_nil _).symm
  | cons c rest ih =>
      rw [List.foldl_cons, (h c List.mem_cons_self).add,
        ih fun d hd => h d (List.mem_cons_of_mem c hd)]
      simp [Draft.text]

/-- A text of such characters is in composed form. -/
theorem compose_of_inert (h : ∀ c ∈ text, Inert c) : compose text = text := by
  unfold compose
  split
  · rfl
  · rw [flatMap_of_inert h, ordered_of_inert h, text_of_inert h]
    rfl

end Composed

end OciBlobs.Url
