/-
# `Proofs.Bytes.Sha256` — a hash over a stream is the hash of the whole

Whole blocks may be compressed as soon as they are there: what is left over is
what the next octets are put behind (`absorb_append`).  So a hasher that has
taken a message, in whatever reads, stands where the message alone puts it
(`Hasher.Took`), and ends in its hash (`Took.finish`).
-/
import OciBlobs.Bytes.Sha256

namespace OciBlobs.Sha256

theorem absorb_of_lt (v : Chain) {bytes : Bytes} (h : bytes.length < 64) :
    absorb v bytes = (v, bytes) := by
  have hno : ¬ hasBlock bytes = true := by
    rw [hasBlock_iff]
    omega
  rw [absorb, if_neg hno]

theorem absorb_of_le (v : Chain) {bytes : Bytes} (h : 64 ≤ bytes.length) :
    absorb v bytes = absorb (compress v (bytes.take 64)) (bytes.drop 64) := by
  rw [absorb, if_pos ((hasBlock_iff bytes).mpr h)]

theorem absorb_append (v : Chain) (front back : Bytes) :
    absorb v (front ++ back) = absorb (absorb v front).1 ((absorb v front).2 ++ back) := by
  by_cases h : 64 ≤ front.length
  · have hlong : 64 ≤ (front ++ back).length := by
      rw [List.length_append]
      omega
    rw [absorb_of_le v hlong, List.take_append_of_le_length h, List.drop_append_of_le_length h,
      absorb_append (compress v (front.take 64)) (front.drop 64) back, ← absorb_of_le v h]
  · rw [absorb_of_lt v (by omega : front.length < 64)]
termination_by front.length
decreasing_by
  rw [List.length_drop]
  omega

namespace Hasher

/-- The hasher has taken a message and nothing else. -/
structure Took (hasher : Hasher) (message : Bytes) : Prop where
  absorbed : absorb Chain.initial message = (hasher.chain, hasher.tail)
  count : hasher.count = message.length

variable {hasher : Hasher} {message : Bytes}

theorem took_nil : Took {} [] :=
  ⟨absorb_of_lt _ (by decide), rfl⟩

theorem Took.update (h : hasher.Took message) (bytes : Bytes) :
    (hasher.update bytes).Took (message ++ bytes) where
  absorbed := by
    rw [absorb_append, h.absorbed]
    rfl
  count := by
    rw [List.length_append, ← h.count]
    rfl

theorem Took.finish (h : hasher.Took message) : hasher.finish = hash message := by
  rw [hash, absorb_append, h.absorbed, ← h.count]
  rfl

end Hasher

end OciBlobs.Sha256
