/-
# `Proofs.Json.Reads` — what a reader reads off a text

`Reader.Reads reader before a after` says that in front of the octets of
`before`, which are all there are, the reader reads `a` and goes on in front of
those of `after`.  Where the reader stands and how its octets came to it is
left open: both show in the place of a fault only.

Readings are put together as readers are.  A loop is read turn by turn
(`Reader.Loops`), and its fuel lasts if every turn but the last leaves less
before it than there was.
-/
import OciBlobs.Proofs.Bytes.Utf8
import OciBlobs.Proofs.Json.Foretold

namespace OciBlobs

namespace Utf8

variable {c : Char}

theorem encodeChar_ascii (h : c.toNat < 0x80) : encodeChar c = [Json.octet c] := by
  simp [encodeChar, Json.octet, h]

theorem encode_cons_ascii (h : c.toNat < 0x80) (rest : List Char) :
    encode (c :: rest) = Json.octet c :: encode rest := by
  rw [encode_cons, encodeChar_ascii h]
  rfl

end Utf8

namespace Json

/-- The octets of `text` are all that is left. -/
structure Cursor.At (cursor : Cursor) (text : List Char) : Prop where
  rest : cursor.rest = Utf8.encode text
  ending : cursor.ending = .closed

/-- A character that stands for a token: ASCII, and no blank. -/
def isToken (c : Char) : Bool :=
  c.toNat < 0x80 && !isBlank (octet c)

theorem ascii_of_token {c : Char} (h : isToken c = true) : c.toNat < 0x80 := by
  simp only [isToken, Bool.and_eq_true, decide_eq_true_eq] at h
  exact h.1

theorem isBlank_of_token {c : Char} (h : isToken c = true) : isBlank (octet c) = false := by
  simp only [isToken, Bool.and_eq_true, Bool.not_eq_true'] at h
  exact h.2

namespace Reader

variable {α β σ : Type} {before mid after rest : List Char} {c : Char}

/-- In front of `before` the reader reads `a`, and goes on in front of `after`. -/
def Reads (reader : Reader α) (before : List Char) (a : α) (after : List Char) : Prop :=
  ∀ cursor : Cursor, cursor.At before →
    ∃ last : Cursor, reader cursor = (.ok a, last) ∧ last.At after

/-! ## One reader after another -/

theorem reads_pure (a : α) (text : List Char) : (pure a : Reader α).Reads text a text :=
  fun cursor hat => ⟨cursor, rfl, hat⟩

namespace Reads

variable {a : α} {b : β}

theorem bind {first : Reader α} {second : α → Reader β} (h : first.Reads before a mid)
    (h' : (second a).Reads mid b after) : (first >>= second).Reads before b after := by
  intro cursor hat
  obtain ⟨between, hfirst, hat⟩ := h cursor hat
  obtain ⟨last, hsecond, hat⟩ := h' between hat
  refine ⟨last, ?_, hat⟩
  rw [bind_apply, hfirst]
  exact hsecond

theorem seqRight {first : Reader α} {second : Reader β} (h : first.Reads before a mid)
    (h' : second.Reads mid b after) : (first *> second).Reads before b after :=
  h.bind h'

theorem map {reader : Reader α} (f : α → β) (h : reader.Reads before a after) :
    (f <$> reader).Reads before (f a) after :=
  h.bind (reads_pure _ _)

theorem located {reader : Reader α} (h : reader.Reads before a after) :
    reader.located.Reads before a after := by
  intro cursor hat
  obtain ⟨last, hread, hat⟩ := h cursor hat
  exact ⟨last, by rw [Reader.located, hread], hat⟩

theorem attempt {reader : Reader α} (h : reader.Reads before a after) :
    reader.attempt.Reads before (.ok a) after := by
  intro cursor hat
  obtain ⟨last, hread, hat⟩ := h cursor hat
  exact ⟨last, by rw [Reader.attempt, hread], hat⟩

theorem ite_pos {p : Prop} [Decidable p] {reader other : Reader α} (hp : p)
    (h : reader.Reads before a after) : (if p then reader else other).Reads before a after := by
  rwa [if_pos hp]

theorem ite_neg {p : Prop} [Decidable p] {reader other : Reader α} (hp : ¬p)
    (h : other.Reads before a after) : (if p then reader else other).Reads before a after := by
  rwa [if_neg hp]

end Reads

/-! ## Octets -/

theorem span_of_end {p : UInt8 → Bool} {cursor : Cursor}
    (h : (cursor.pass (cursor.rest.takeWhile p)).rest = []) (hending : cursor.ending = .closed) :
    span p cursor =
      (.ok (cursor.rest.takeWhile p, none), cursor.pass (cursor.rest.takeWhile p)) := by
  simp [span, h, hending]

/-- A stretch is read up to the first octet that does not belong to it. -/
theorem reads_span {p : UInt8 → Bool} (run : List Char)
    (hrun : ∀ b ∈ Utf8.encode run, p b = true)
    (hstop : ∀ b ∈ (Utf8.encode rest).head?, p b = false) :
    (span p).Reads (run ++ rest) (Utf8.encode run, (Utf8.encode rest).head?) rest := by
  intro cursor hat
  have hsplit : cursor.rest = Utf8.encode run ++ Utf8.encode rest := by
    rw [hat.rest, Utf8.encode_append]
  have hpass := pass_takeWhile cursor p
  have hending := (pass_ending cursor (cursor.rest.takeWhile p)).trans hat.ending
  have hdrop : cursor.rest.dropWhile p = Utf8.encode rest := by
    rw [hsplit, List.dropWhile_append_of_pos hrun]
    cases hrest : Utf8.encode rest with
    | nil => rfl
    | cons b tail => exact List.dropWhile_cons_of_neg (by simp [hstop b (by simp [hrest])])
  have htake : cursor.rest.takeWhile p = Utf8.encode run := by
    have hwhole := List.takeWhile_append_dropWhile (p := p) (l := cursor.rest)
    rw [hdrop, hsplit] at hwhole
    rw [hsplit]
    exact List.append_cancel_right hwhole
  rw [hdrop] at hpass
  cases hrest : Utf8.encode rest with
  | nil =>
      rw [hrest] at hpass
      refine ⟨cursor.pass (cursor.rest.takeWhile p), ?_, hpass.trans hrest.symm, hending⟩
      rw [span_of_end hpass hat.ending, htake]
      rfl
  | cons b tail =>
      rw [hrest] at hpass
      refine ⟨{ cursor.pass (cursor.rest.takeWhile p) with held := true }, ?_,
        hpass.trans hrest.symm, hending⟩
      rw [span_of_found hpass, htake]
      rfl

theorem reads_span_before {p : UInt8 → Bool} (run : List Char)
    (hrun : ∀ b ∈ Utf8.encode run, p b = true) (h : c.toNat < 0x80) (hstop : p (octet c) = false)
    (rest : List Char) :
    (span p).Reads (run ++ c :: rest) (Utf8.encode run, some (octet c)) (c :: rest) := by
  have hhead : (Utf8.encode (c :: rest)).head? = some (octet c) := by
    rw [Utf8.encode_cons_ascii h]
    rfl
  have hfirst : ∀ b ∈ (Utf8.encode (c :: rest)).head?, p b = false := by
    rw [hhead]
    exact fun b hb => Option.some.inj hb ▸ hstop
  have hspan := reads_span run hrun hfirst
  rwa [hhead] at hspan

theorem reads_peek (text : List Char) :
    peek.Reads text (Utf8.encode text).head? text :=
  (reads_span [] (List.forall_mem_nil _) fun _ _ => rfl).bind (reads_pure _ _)

theorem reads_peek_ascii (h : c.toNat < 0x80) (rest : List Char) :
    peek.Reads (c :: rest) (some (octet c)) (c :: rest) :=
  (reads_span_before [] (List.forall_mem_nil _) h rfl rest).bind (reads_pure _ _)

theorem reads_drop (h : c.toNat < 0x80) (rest : List Char) : drop.Reads (c :: rest) () rest := by
  intro cursor hat
  have hrest := hat.rest
  rw [Utf8.encode_cons_ascii h] at hrest
  refine ⟨cursor.pass [octet c], by simp [drop, hrest], ?_, hat.ending⟩
  simp [Cursor.pass, hrest]

theorem reads_next (h : c.toNat < 0x80) (rest : List Char) :
    next.Reads (c :: rest) (some (octet c)) rest :=
  (reads_peek_ascii h rest).bind ((reads_drop h rest).bind (reads_pure _ _))

theorem reads_peekPastBlanks (h : isToken c = true) (rest : List Char) :
    peekPastBlanks.Reads (c :: rest) (some (octet c)) (c :: rest) :=
  (reads_span_before [] (List.forall_mem_nil _) (ascii_of_token h) (isBlank_of_token h) rest).bind
    (reads_pure _ _)

theorem reads_peekPastBlanks_end : peekPastBlanks.Reads [] none [] := by
  have hspan : (span isBlank).Reads [] (Utf8.encode [], (Utf8.encode []).head?) [] :=
    reads_span [] (List.forall_mem_nil _) fun _ hb => nomatch hb
  exact hspan.bind (reads_pure _ _)

theorem reads_word {letters : List Char} (h : ∀ c ∈ letters, c.toNat < 0x80) (rest : List Char) :
    (word letters).Reads (letters ++ rest) () rest := by
  induction letters with
  | nil => exact reads_pure _ _
  | cons c letters ih =>
      rw [List.forall_mem_cons] at h
      exact (reads_next h.1 _).bind (.ite_pos rfl (ih h.2))

/-! ## Loops -/

/-- The loop comes to `b`, whatever fuel it has left, if there is more of it
than there are octets. -/
def Loops (step : σ → Reader (Turn σ β)) (state : σ) (before : List Char) (b : β)
    (after : List Char) : Prop :=
  ∀ fuel, (Utf8.encode before).length < fuel → (turns step fuel state).Reads before b after

namespace Loops

variable {step : σ → Reader (Turn σ β)} {state next : σ} {b : β}

theorem done (h : (step state).Reads before (.done b) after) :
    Loops step state before b after := by
  intro fuel hfuel
  cases fuel with
  | zero => exact absurd hfuel (Nat.not_lt_zero _)
  | succ fuel => exact h.bind (reads_pure _ _)

theorem again {front : List Char} (hfront : front ≠ [])
    (h : (step state).Reads (front ++ mid) (.again next) mid)
    (hnext : Loops step next mid b after) :
    Loops step state (front ++ mid) b after := by
  intro fuel hfuel
  cases fuel with
  | zero => exact absurd hfuel (Nat.not_lt_zero _)
  | succ fuel =>
      have hless := Utf8.length_encode_lt hfront mid
      exact h.bind (hnext fuel (by omega))

theorem reads (h : Loops step state before b after) :
    (loop step state).Reads before b after := by
  intro cursor hat
  exact h (cursor.rest.length + 1) (hat.rest ▸ Nat.lt_succ_self _) cursor hat

end Loops

end Reader

end Json

end OciBlobs
