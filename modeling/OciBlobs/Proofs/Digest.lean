/-
# `Proofs.Digest` — a digest and its text, a digest and its content

The colon in a digest is its only one up to there, so no two digests have one
text (`chars_injective`); and a digest that was read is written as it was
(`text_of_parse`).  Content that arrives in reads, none of them empty, has the
digest that it has as a whole (`ofReads_ok`).
-/
import OciBlobs.Digest
import OciBlobs.Proofs.Bytes.Sha256
import OciBlobs.Text.Split

namespace OciBlobs.Digest

variable {text : String} {digest : Digest}

/-! ## Texts -/

theorem colon_not_mem (digest : Digest) : ':' ∉ digest.algorithm := by
  intro h
  have hc := List.all_eq_true.mp digest.algorithm_valid ':' h
  exact absurd hc (by decide)

/-- The text of a digest tells its parts. -/
theorem chars_injective {a b : Digest} (h : a.chars = b.chars) : a = b := by
  have hcut (digest : Digest) : (Text.cutAt ':' digest.chars).head? = some digest.algorithm := by
    rw [chars, Text.cutAt_append digest.colon_not_mem]
    rfl
  have halgorithm : a.algorithm = b.algorithm := by
    have hhead := hcut a
    rw [h, hcut b] at hhead
    exact (Option.some.inj hhead).symm
  have hencoded : a.encoded = b.encoded := by
    rw [chars, chars, halgorithm] at h
    exact (List.cons.inj (List.append_cancel_left h)).2
  cases a
  cases b
  cases halgorithm
  cases hencoded
  rfl

theorem chars_of_ofChars {text : List Char} (h : ofChars text = .ok digest) :
    digest.chars = text := by
  have hwhole := List.takeWhile_append_dropWhile (p := (· != ':')) (l := text)
  unfold ofChars at h
  cases hback : text.dropWhile (· != ':') with
  | nil => simp [hback] at h
  | cons c encoded =>
      have hcolon : c = ':' := by
        have hhead := List.head?_dropWhile_not (· != ':') text
        rw [hback] at hhead
        simpa using hhead
      rw [hback] at h hwhole
      dsimp only at h
      split at h
      · cases h
      split at h
      · split at h
        · cases h
        split at h
        · cases h
          rw [hcolon] at hwhole
          exact hwhole
        · cases h
      · cases h

theorem text_of_parse (h : parse text = .ok digest) : digest.text = text := by
  unfold parse at h
  split at h
  case h_1 parsed hchars =>
    cases h
    rw [Digest.text, chars_of_ofChars hchars, String.ofList_toList]
  · cases h

theorem text_sha256 (content : Bytes) :
    (sha256 content).text =
      "sha256:" ++ String.ofList (Bytes.toHex (Sha256.hash content).toBytes) := by
  rw [← String.ofList_toList (s := "sha256:"), ← String.ofList_append]
  rfl

/-! ## Content in reads -/

theorem hashReads_ok {reads : List Bytes} (h : ∀ bytes ∈ reads, bytes ≠ [])
    {hasher : Sha256.Hasher} {message : Bytes} (hm : hasher.Took message) :
    ∃ last, hashReads hasher (reads.map .ok) = .ok last ∧
      last.Took (message ++ reads.flatten) := by
  induction reads generalizing hasher message with
  | nil => exact ⟨hasher, rfl, by rwa [List.flatten_nil, List.append_nil]⟩
  | cons bytes rest ih =>
      obtain ⟨b, others, rfl⟩ := List.exists_cons_of_ne_nil (h bytes List.mem_cons_self)
      obtain ⟨last, hlast, htook⟩ := ih (fun other hin => h other (List.mem_cons_of_mem _ hin))
        (hm.update (b :: others))
      exact ⟨last, hlast, by rwa [List.flatten_cons, ← List.append_assoc]⟩

/-- In reads, none of them empty, content has the digest that it has as a
whole. -/
theorem ofReads_ok {reads : List Bytes} (h : ∀ bytes ∈ reads, bytes ≠ []) :
    ofReads (reads.map .ok) = .ok (sha256 reads.flatten) := by
  obtain ⟨last, hlast, htook⟩ := hashReads_ok h Sha256.Hasher.took_nil
  rw [List.nil_append] at htook
  show (hashReads {} (reads.map .ok)).bind _ = _
  rw [hlast, sha256, ← htook.finish]
  rfl

end OciBlobs.Digest
