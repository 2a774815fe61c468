/-
# `Proofs.Blob.Reading` — reading a body in a scope

A download is read in the scope that it was opened in.  Once that has ended,
every way of reading gives nothing but its failure, also at the end of the
body (`read_of_ended`).  A piece that stalls is not got past: either reading
ends before it, as it would whatever came there, or it gives up there
(`read_stall`, `decode_stall`).
-/
import OciBlobs.Caller
import OciBlobs.Proofs.Run.Wait

namespace OciBlobs

open Http

/-- How a reading ends, without what was read. -/
def Outcome.ending : Outcome Reading → Outcome Unit
  | .ok reading =>
    match reading.failure with
    | some failure => .failed failure
    | none => .ok ()
  | .failed failure => .failed failure
  | .stuck => .stuck
  | .overflow => .overflow

/-! ## What reading is made of -/

namespace Act.Reads

variable {P : ∀ {α : Type}, Act α → Prop} (h : Reads P) (scope : Scope)
include h

theorem receive (piece : Piece) : P (piece.receive scope) := by
  refine h.bind (h.await scope none piece.before) fun _ => ?_
  cases piece.data with
  | some data => exact h.pure _
  | none => exact h.fail _

theorem take (piece : Piece) : P (scope.guarded (piece.receive scope)).attempt :=
  h.attempt (h.guarded scope (h.receive scope piece))

theorem itemsOf : ∀ pieces : List Piece, P (Download.itemsOf scope pieces)
  | [] => by
      refine h.bind (h.attempt (h.check scope)) fun result => ?_
      cases result with
      | ok _ => exact h.pure _
      | error failure => exact h.pure _
  | piece :: rest => by
      refine h.bind (h.take scope piece) fun result => ?_
      cases result with
      | ok data => exact h.map (itemsOf rest) _
      | error failure => exact h.pure _

theorem copyFrom (sink : Download.Sink) :
    ∀ (taken : Nat) (pieces : List Piece), P (Download.copyFrom scope sink taken pieces)
  | _, [] => by
      refine h.bind (h.attempt (h.check scope)) fun result => ?_
      cases result with
      | ok _ => exact h.pure _
      | error failure => exact h.pure _
  | taken, piece :: rest => by
      refine h.bind (h.take scope piece) fun result => ?_
      cases result with
      | error failure => exact h.pure _
      | ok data =>
          dsimp only
          split
          · exact h.pure _
          · exact h.bind (copyFrom sink _ rest) fun _ => h.pure _

theorem receiveAll : ∀ pieces : List Piece,
    P (pieces.mapM fun piece : Piece => piece.receive scope)
  | [] => h.pure _
  | piece :: rest => by
      rw [List.mapM_cons]
      exact h.bind (h.receive scope piece) fun _ => h.bind (receiveAll rest) fun _ => h.pure _

omit scope

theorem next (download : Download) : P download.next := by
  refine h.guarded download.scope ?_
  split
  · exact h.pure _
  · exact h.bind (h.receive _ _) fun _ => h.pure _

/-- Every way of reading. -/
theorem read (download : Download) (way : Download.Way) : P (download.read way) := by
  cases way with
  | chunk =>
      refine h.bind (h.attempt (h.next download)) fun result => ?_
      rcases result with _ | _ | _ <;> exact h.pure _
  | bytes =>
      refine h.bind (h.attempt (h.guarded _ (h.map (h.receiveAll _ _) _))) fun result => ?_
      cases result <;> exact h.pure _
  | stream => exact h.map (h.itemsOf _ _) _
  | copy sink => exact h.copyFrom _ _ _ _

end Act.Reads

namespace Download

theorem idles_read (download : Download) (way : Way) :
    (download.read way).Within Run.Idles :=
  Act.reads_idles.read download way

/-! ## Scopes that have ended -/

variable {download : Download} {run : Run} {failure : Failure}

theorem attempt_of_ended {α : Type} {scope : Scope} (h : scope.endedIn? run = some failure)
    (act : Act α) : (scope.guarded act).attempt run = (.ok (.error failure), run) := by
  rw [Act.attempt_run, Scope.guarded_of_ended h]

/-- Once the scope has ended, every way of reading gives its failure and
nothing else, and does nothing. -/
theorem read_of_ended (h : download.scope.endedIn? run = some failure) (way : Way) :
    download.read way run = (.ok { failure := some failure }, run) := by
  have hcheck : download.scope.check.attempt run = (.ok (.error failure), run) := by
    rw [Act.attempt_run, Scope.check_of_ended h]
  cases way with
  | chunk => exact Act.bind_ok (attempt_of_ended h _) _
  | bytes => exact Act.bind_ok (attempt_of_ended h _) _
  | stream =>
      have hitems : download.items run = (.ok [.error (.carrying failure)], run) := by
        unfold items
        cases download.response.body with
        | nil => exact Act.bind_ok hcheck _
        | cons piece rest => exact Act.bind_ok (attempt_of_ended h _) _
      exact Act.bind_ok hitems _
  | copy sink =>
      show copyFrom download.scope sink 0 download.response.body run = _
      cases download.response.body with
      | nil => exact Act.bind_ok hcheck _
      | cons piece rest => exact Act.bind_ok (attempt_of_ended h _) _

/-! ## Pieces that stall -/

def withBody (download : Download) (body : List Piece) : Download :=
  { download with response := { download.response with body } }

variable {scope : Scope} {piece : Piece}

theorem receive_stall (hs : .stall ∈ piece.before) (run : Run) :
    scope.GivesUp (fun _ => False) (piece.receive scope run).1 (piece.receive scope run).2 :=
  ((Scope.await_stall hs nofun run).bind _).1

theorem guarded_stall (hs : .stall ∈ piece.before) (run : Run) :
    scope.GivesUp (fun _ => False) (scope.guarded (piece.receive scope) run).1
      (scope.guarded (piece.receive scope) run).2 := by
  cases he : scope.endedIn? run with
  | some failure =>
      rw [Scope.guarded_of_ended he]
      exact .ended he
  | none =>
      rw [Scope.guarded_of_open he]
      exact receive_stall hs run

/-- Reading what is left of a body, `tail`, in a state: either it ends in the
same way whatever is left, or it gives up. -/
def StopsAt (scope : Scope) (read : List Piece → Act Reading) (tail : List Piece) (run : Run) :
    Prop :=
  (∀ other, read other run = read tail run) ∨
    scope.GivesUp (fun _ => False) (read tail run).1.ending (read tail run).2

namespace StopsAt

variable {read : List Piece → Act Reading} {tail : List Piece}

theorem map {f : Reading → Reading} (hf : ∀ reading, (f reading).failure = reading.failure)
    (h : StopsAt scope read tail run) : StopsAt scope (fun rest => f <$> read rest) tail run := by
  rcases h with hsame | hg
  · refine .inl fun other => ?_
    show (read other >>= fun reading => pure (f reading)) run =
      (read tail >>= fun reading => pure (f reading)) run
    rw [Act.bind_run, Act.bind_run, hsame other]
  · refine .inr ?_
    show scope.GivesUp _ ((read tail >>= fun reading => pure (f reading)) run).1.ending
      ((read tail >>= fun reading => pure (f reading)) run).2
    rw [Act.bind_run]
    generalize read tail run = ended at hg ⊢
    rcases ended with ⟨reading | _ | _ | _, after⟩
    · have hsame : (Outcome.ok (f reading)).ending = (Outcome.ok reading).ending := by
        simp only [Outcome.ending, hf]
      exact hsame ▸ hg
    all_goals exact hg

/-- One piece, and then what is left, in whatever state that piece leaves. -/
theorem take {act : Act (Except Failure Bytes)}
    {next : List Piece → Except Failure Bytes → Act Reading}
    (herror : ∀ rest failure, next rest (.error failure) = pure { failure := some failure })
    (hok : ∀ data after, StopsAt scope (fun rest => next rest (.ok data)) tail after) :
    StopsAt scope (fun rest => act >>= next rest) tail run := by
  cases ha : act run with | mk outcome after => ?_
  cases outcome with
  | ok result =>
      simp only [StopsAt, Act.bind_ok ha]
      cases result with
      | ok data => exact hok data after
      | error failure =>
          refine .inl fun other => ?_
          rw [herror, herror]
  | failed failure =>
      exact .inl fun other => (Act.bind_failed ha (next other)).trans (Act.bind_failed ha _).symm
  | stuck =>
      exact .inl fun other => (Act.bind_stuck ha (next other)).trans (Act.bind_stuck ha _).symm
  | overflow =>
      exact .inl fun other =>
        (Act.bind_overflow ha (next other)).trans (Act.bind_overflow ha _).symm

/-- A reading that is told of a failure, and fails with it, gives up when what
it waits for gives up. -/
theorem of_givesUp {α : Type} {act : Act α} {next : Except Failure α → Act Reading}
    (hread : read tail = act.attempt >>= next)
    (hg : scope.GivesUp (fun _ => False) (act run).1 (act run).2)
    (herror : ∀ failure, next (.error failure) = pure { failure := some failure }) :
    StopsAt scope read tail run := by
  refine .inr ?_
  rw [hread, Act.bind_run, Act.attempt_run]
  generalize act run = ended at hg ⊢
  rcases ended with ⟨_ | failure | _ | _, after⟩
  · exact absurd hg Scope.GivesUp.not_ok
  · show scope.GivesUp _ (next (.error failure) after).1.ending (next (.error failure) after).2
    rw [herror]
    exact hg.failed
  · exact hg.stuck
  · exact absurd hg Scope.GivesUp.not_overflow

theorem attempt {α : Type} {acts : List Piece → Act α} {next : Except Failure α → Act Reading}
    (hread : ∀ rest, read rest = (acts rest).attempt >>= next)
    (h : (∀ other, acts other run = acts tail run) ∨
      scope.GivesUp (fun _ => False) (acts tail run).1 (acts tail run).2)
    (herror : ∀ failure, next (.error failure) = pure { failure := some failure }) :
    StopsAt scope read tail run := by
  rcases h with hsame | hg
  · refine .inl fun other => ?_
    rw [hread, hread, Act.bind_run, Act.bind_run, Act.attempt_run, Act.attempt_run, hsame other]
  · exact .of_givesUp (hread tail) hg herror

end StopsAt

theorem readingOf_items_cons (scope : Scope) (first : Piece) (rest : List Piece) :
    readingOf <$> itemsOf scope (first :: rest) =
      (scope.guarded (first.receive scope)).attempt >>= fun result =>
        match result with
        | .ok data => Reading.after data <$> (readingOf <$> itemsOf scope rest)
        | .error failure => pure { failure := some failure } := by
  rw [itemsOf, map_bind]
  congr
  funext result
  cases result with
  | ok data =>
      simp only [Functor.map_map]
      rfl
  | error failure => rfl

theorem items_stall (hs : .stall ∈ piece.before) (post : List Piece) :
    ∀ (pre : List Piece) (run : Run),
      StopsAt scope (fun rest => readingOf <$> itemsOf scope (pre ++ rest)) (piece :: post) run := by
  intro pre
  induction pre with
  | nil =>
      intro run
      exact .of_givesUp (readingOf_items_cons ..) (guarded_stall hs run) fun _ => rfl
  | cons first pre ih =>
      intro run
      simp only [List.cons_append, readingOf_items_cons]
      exact .take (fun _ _ => rfl) fun data after => (ih after).map fun _ => rfl

theorem copy_stall (hs : .stall ∈ piece.before) (post : List Piece) (sink : Sink) :
    ∀ (pre : List Piece) (taken : Nat) (run : Run),
      StopsAt scope (fun rest => copyFrom scope sink taken (pre ++ rest)) (piece :: post) run := by
  intro pre
  induction pre with
  | nil =>
      intro taken run
      exact .of_givesUp rfl (guarded_stall hs run) fun _ => rfl
  | cons first pre ih =>
      intro taken run
      simp only [List.cons_append, copyFrom]
      refine .take (fun _ _ => rfl) fun data after => ?_
      dsimp only
      cases hw : (write sink taken (writesOf data)).failure with
      | some failure => exact .inl fun _ => rfl
      | none => exact (ih _ after).map fun _ => rfl

theorem receiveAll_stall (scope : Scope) (hs : .stall ∈ piece.before) (post : List Piece) :
    ∀ (pre : List Piece) (run : Run),
      (∀ other, ((pre ++ other).mapM fun piece : Piece => piece.receive scope) run =
        ((pre ++ piece :: post).mapM fun piece : Piece => piece.receive scope) run) ∨
      scope.GivesUp (fun _ => False)
        (((pre ++ piece :: post).mapM fun piece : Piece => piece.receive scope) run).1
        (((pre ++ piece :: post).mapM fun piece : Piece => piece.receive scope) run).2 := by
  intro pre
  induction pre with
  | nil =>
      intro run
      rw [List.nil_append, List.mapM_cons]
      exact .inr ((receive_stall hs run).bind _).1
  | cons first pre ih =>
      intro run
      simp only [List.cons_append, List.mapM_cons]
      cases hf : first.receive scope run with | mk outcome after => ?_
      cases outcome with
      | ok data =>
          simp only [Act.bind_ok hf]
          rcases ih after with hsame | hg
          · refine .inl fun other => ?_
            rw [Act.bind_run, Act.bind_run, hsame other]
          · exact .inr (hg.bind _).1
      | failed failure => simp only [Act.bind_failed hf, true_or, implies_true]
      | stuck => simp only [Act.bind_stuck hf, true_or, implies_true]
      | overflow => simp only [Act.bind_overflow hf, true_or, implies_true]

theorem next_cons (download : Download) (first : Piece) (rest : List Piece) :
    (download.withBody (first :: rest)).next = (fun data => some (data, download.withBody rest)) <$>
      download.scope.guarded (first.receive download.scope) :=
  (Act.bind_assoc ..).symm

theorem read_chunk_cons (download : Download) (first : Piece) (rest : List Piece) :
    (download.withBody (first :: rest)).read .chunk =
      (download.scope.guarded (first.receive download.scope)).attempt >>= fun result =>
        match result with
        | .ok data => pure { pieces := [data] }
        | .error failure => pure { failure := some failure } := by
  unfold read
  dsimp only
  rw [next_cons, Act.attempt_map, Act.bind_assoc]
  congr
  funext result
  cases result <;> rfl

theorem whole_stall (hs : .stall ∈ piece.before) (download : Download) (pre post : List Piece)
    (run : Run) :
    (∀ other, (download.withBody (pre ++ other)).whole run =
      (download.withBody (pre ++ piece :: post)).whole run) ∨
    download.scope.GivesUp (fun _ => False) ((download.withBody (pre ++ piece :: post)).whole run).1
      ((download.withBody (pre ++ piece :: post)).whole run).2 := by
  cases he : download.scope.endedIn? run with
  | some failure =>
      have hends (body : List Piece) : (download.withBody body).whole run = (.failed failure, run) :=
        Scope.guarded_of_ended he _
      exact .inl fun other => (hends _).trans (hends _).symm
  | none =>
      have hall (body : List Piece) : (download.withBody body).whole run =
          ((body.mapM fun piece : Piece => piece.receive download.scope) >>= fun pieces =>
            pure pieces.flatten) run :=
        Scope.guarded_of_open he _
      simp only [hall]
      rcases receiveAll_stall download.scope hs post pre run with hsame | hg
      · refine .inl fun other => ?_
        rw [Act.bind_run, Act.bind_run, hsame other]
      · exact .inr (hg.bind _).1

/-- No way of reading gets past a stalled piece: it ends before it, as it would
whatever came there, or it gives up there. -/
theorem read_stall (hs : .stall ∈ piece.before) (download : Download) (way : Way)
    (pre post : List Piece) (run : Run) :
    StopsAt download.scope (fun rest => (download.withBody (pre ++ rest)).read way)
      (piece :: post) run := by
  cases way with
  | chunk =>
      cases pre with
      | nil => exact .of_givesUp (read_chunk_cons ..) (guarded_stall hs run) fun _ => rfl
      | cons first pre =>
          simp only [List.cons_append, read_chunk_cons]
          exact .take (fun _ _ => rfl) fun data after => .inl fun _ => rfl
  | bytes => exact .attempt (fun _ => rfl) (whole_stall hs download pre post run) fun _ => rfl
  | stream => exact items_stall hs post pre run
  | copy sink => exact copy_stall hs post sink pre 0 run

end Download

end OciBlobs
