/-
# `Text.Split` — cutting a list at a separator
-/

namespace OciBlobs.Text

/-- Cuts a list at every element equal to `sep`; there is at least one piece. -/
def cutAt {α : Type} [BEq α] (sep : α) : List α → List (List α)
  | [] => [[]]
  | a :: rest =>
    match cutAt sep rest with
    | [] => [[a]]
    | piece :: pieces => if a == sep then [] :: piece :: pieces else (a :: piece) :: pieces

theorem cutAt_ne_nil {α : Type} [BEq α] (sep : α) (text : List α) : cutAt sep text ≠ [] := by
  cases text with
  | nil => simp [cutAt]
  | cons a rest =>
      unfold cutAt
      split
      · simp
      · split <;> simp

variable {α : Type} [BEq α] [LawfulBEq α] {sep : α}

theorem cutAt_cons_self (rest : List α) : cutAt sep (sep :: rest) = [] :: cutAt sep rest := by
  cases hr : cutAt sep rest with
  | nil => exact absurd hr (cutAt_ne_nil sep rest)
  | cons piece pieces => simp [cutAt, hr]

theorem cutAt_cons_of_ne {a : α} (ha : a ≠ sep) {rest piece : List α} {pieces : List (List α)}
    (hr : cutAt sep rest = piece :: pieces) :
    cutAt sep (a :: rest) = (a :: piece) :: pieces := by
  simp [cutAt, hr, ha]

theorem cutAt_of_not_mem {piece : List α} (h : sep ∉ piece) : cutAt sep piece = [piece] := by
  induction piece with
  | nil => rfl
  | cons a piece ih =>
      rw [List.mem_cons, not_or] at h
      exact cutAt_cons_of_ne (Ne.symm h.1) (ih h.2)

theorem cutAt_append_cons (front rest : List α) :
    cutAt sep (front ++ sep :: rest) = cutAt sep front ++ cutAt sep rest := by
  induction front with
  | nil => exact cutAt_cons_self rest
  | cons a front ih =>
      by_cases ha : a = sep
      · subst ha
        rw [List.cons_append, cutAt_cons_self, cutAt_cons_self, ih]
        rfl
      · cases hf : cutAt sep front with
        | nil => exact absurd hf (cutAt_ne_nil sep front)
        | cons piece pieces =>
            rw [hf, List.cons_append] at ih
            rw [List.cons_append, cutAt_cons_of_ne ha ih, cutAt_cons_of_ne ha hf]
            rfl

/-- What has no separator in it is one piece, up to the next separator. -/
theorem cutAt_append {piece : List α} (h : sep ∉ piece) (rest : List α) :
    cutAt sep (piece ++ sep :: rest) = piece :: cutAt sep rest := by
  rw [cutAt_append_cons, cutAt_of_not_mem h]
  rfl

/-- No piece holds a separator, or anything that the whole does not hold. -/
theorem mem_of_cutAt {text piece : List α} (h : piece ∈ cutAt sep text) {a : α} (ha : a ∈ piece) :
    a ≠ sep ∧ a ∈ text := by
  induction text generalizing piece with
  | nil =>
      rw [cutAt, List.mem_singleton] at h
      subst h
      cases ha
  | cons b rest ih =>
      have hrest (hm : piece ∈ cutAt sep rest) : a ≠ sep ∧ a ∈ b :: rest :=
        (ih hm ha).imp_right (List.mem_cons_of_mem b)
      by_cases hb : b = sep
      · subst hb
        rw [cutAt_cons_self, List.mem_cons] at h
        rcases h with rfl | hm
        · cases ha
        · exact hrest hm
      · cases hc : cutAt sep rest with
        | nil => exact absurd hc (cutAt_ne_nil sep rest)
        | cons first pieces =>
            rw [cutAt_cons_of_ne hb hc, List.mem_cons] at h
            rcases h with rfl | hm
            · rcases List.mem_cons.mp ha with rfl | hm
              · exact ⟨hb, List.mem_cons_self⟩
              · exact (ih (hc ▸ List.mem_cons_self) hm).imp_right (List.mem_cons_of_mem b)
            · exact hrest (hc ▸ List.mem_cons_of_mem _ hm)

theorem intercalate_cutAt (text : List α) : List.intercalate [sep] (cutAt sep text) = text := by
  induction text with
  | nil => rfl
  | cons a rest ih =>
      cases hr : cutAt sep rest with
      | nil => exact absurd hr (cutAt_ne_nil sep rest)
      | cons piece pieces =>
          rw [hr] at ih
          by_cases ha : a = sep
          · subst ha
            rw [cutAt_cons_self, hr, List.intercalate_cons_cons, ih]
            rfl
          · rw [cutAt_cons_of_ne ha hr]
            cases pieces with
            | nil =>
                rw [List.intercalate_singleton] at ih ⊢
                rw [ih]
            | cons next others =>
                rw [List.intercalate_cons_cons] at ih ⊢
                rw [← ih]
                rfl

theorem cutAt_intercalate {pieces : List (List α)} (hne : pieces ≠ [])
    (h : ∀ piece ∈ pieces, sep ∉ piece) : cutAt sep (List.intercalate [sep] pieces) = pieces := by
  induction pieces with
  | nil => exact absurd rfl hne
  | cons piece rest ih =>
      have hpiece := h piece List.mem_cons_self
      cases rest with
      | nil => rw [List.intercalate_singleton, cutAt_of_not_mem hpiece]
      | cons next others =>
          have hrest := ih (List.cons_ne_nil next others) fun other hm =>
            h other (List.mem_cons_of_mem _ hm)
          rw [List.intercalate_cons_cons, List.append_assoc, List.singleton_append,
            cutAt_append hpiece, hrest]

omit [BEq α] [LawfulBEq α] in
theorem mem_of_intercalate {pieces : List (List α)} {a : α}
    (h : a ∈ List.intercalate [sep] pieces) : a = sep ∨ ∃ piece ∈ pieces, a ∈ piece := by
  induction pieces with
  | nil => cases h
  | cons piece rest ih =>
      cases rest with
      | nil =>
          rw [List.intercalate_singleton] at h
          exact .inr ⟨piece, List.mem_cons_self, h⟩
      | cons next others =>
          rw [List.intercalate_cons_cons, List.append_assoc, List.mem_append] at h
          rcases h with h | h
          · exact .inr ⟨piece, List.mem_cons_self, h⟩
          · rcases List.mem_cons.mp h with rfl | h
            · exact .inl rfl
            · exact (ih h).imp_right fun ⟨other, hm, ha⟩ =>
                ⟨other, List.mem_cons_of_mem piece hm, ha⟩

end OciBlobs.Text
