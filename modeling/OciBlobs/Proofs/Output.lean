/-
# `Proofs.Output` — what the operations of a client leave alone

A client touches no file and writes nothing to standard output.  What it says
about its work are remarks: traces, details and warnings, which no logger places
there.  So every operation keeps both, however it ends (`Run.Keeps`), and what a
command changes of them it does itself.

    stdoutOf_render   notes that no logger places on standard output
    reads_keeps       reading keeps files and standard output
    sends_keeps       so does sending
    operates_keeps    so does all that operations are made of
-/
import OciBlobs.Proofs.Blob.Operate

namespace OciBlobs

open Http

/-! ## Standard output -/

namespace Output

@[simp] theorem stdoutOf_append (front back : List Output) :
    stdoutOf (front ++ back) = stdoutOf front ++ stdoutOf back :=
  List.flatMap_append

@[simp] theorem stdoutOf_stdout (bytes : Bytes) : stdoutOf [.stdout bytes] = bytes :=
  List.append_nil bytes

/-- A remark is not put on standard output, and nothing is by a logger for
standard error. -/
theorem stdoutOf_render {logger : Log.Logger} {note : Log.Note}
    (h : note.level.isAnswer = false ∨ logger.stderrOnly = true) :
    stdoutOf (logger.render note) = [] := by
  have haside : (note.level.isAnswer && !logger.stderrOnly) = false := by
    rcases h with h | h
    · rw [h, Bool.false_and]
    · rw [h, Bool.not_true, Bool.and_false]
  unfold Log.Logger.render Log.Logger.place
  rw [haside]
  split
  · split
    · rfl
    · rfl
  · rfl

end Output

namespace Run

/-- The files are as they were, and so is all of standard output. -/
structure Keeps (before after : Run) : Prop where
  files : after.files = before.files
  stdout : Output.stdoutOf after.output = Output.stdoutOf before.output

instance keepsPreorder : IsPreorder Run Keeps where
  refl _ := ⟨rfl, rfl⟩
  trans _ _ _ h h' := ⟨h'.files.trans h.files, h'.stdout.trans h.stdout⟩

theorem Keeps.trans {a b c : Run} (h : a.Keeps b) (h' : b.Keeps c) : a.Keeps c :=
  IsTrans.trans _ _ _ h h'

end Run

/-! ## Actions that keep both -/

namespace Act

variable {α β : Type}

theorem keeps_note {logger : Log.Logger} {note : Log.Note}
    (h : note.level.isAnswer = false ∨ logger.stderrOnly = true) :
    (Act.note logger note).Within Run.Keeps := by
  intro run
  refine ⟨rfl, ?_⟩
  show Output.stdoutOf (run.output ++ logger.render note) = _
  rw [Output.stdoutOf_append, Output.stdoutOf_render h, List.append_nil]

/-- A last note changes neither how an action ends nor anything but what is put
out; and nothing on standard output, if it is for standard error or not made. -/
theorem noted_run (act : Act α) (logger : Log.Logger) (noteOf : α → Log.Note) (run : Run) :
    ∃ shown, (act >>= fun a => .note logger (noteOf a)) run =
        ((act run).1.forget, (act run).2.withOutput shown) ∧
      ((∀ a, (act run).1 = .ok a →
          (noteOf a).level.isAnswer = false ∨ logger.stderrOnly = true) →
        Output.stdoutOf shown = Output.stdoutOf (act run).2.output) := by
  rw [bind_run]
  rcases act run with ⟨a | failure | _ | _, after⟩
  · exact ⟨_, rfl, fun h => (keeps_note (h a rfl) after).stdout⟩
  all_goals exact ⟨after.output, rfl, fun _ => rfl⟩

theorem waits_keeps : Waits (Within Run.Keeps) where
  pure := .pure
  fail := .fail
  hang := .hang
  bind := .bind
  clock _ hn := Within.state.bind fun run => hn run.now
  check scope run := by
    rw [Scope.check]
    split
    · exact refl run
    · exact refl run
  reach _ _ := ⟨rfl, rfl⟩
  cancelToken _ _ := ⟨rfl, rfl⟩

theorem reads_keeps : Reads (Within Run.Keeps) :=
  { waits_keeps with attempt := .attempt }

theorem sends_keeps : Sends (Within Run.Keeps) :=
  { waits_keeps with
    deliver := fun request spent broken run => by
      cases hc : request.comesThrough run.replies with
      | true =>
          rw [deliver_run hc]
          exact ⟨rfl, rfl⟩
      | false =>
          rw [deliver_broken hc]
          exact ⟨rfl, rfl⟩ }

theorem operates_keeps :
    Operates (Within Run.Keeps) fun act => ∀ logger, (act logger).Within Run.Keeps where
  reads := reads_keeps
  sends := sends_keeps
  hand _ _ := ⟨rfl, rfl⟩
  still h _ := h
  remark _ hl _ := keeps_note (.inl hl)
  bind h hn logger := (h logger).bind fun a => hn a logger
  attempt h logger := (h logger).attempt

end Act

/-! ## The operations -/

theorem Wire.keeps_send (wire : Wire) (scope : Scope) (request : Request) :
    (wire.send scope request).Within Run.Keeps :=
  Act.sends_keeps.send Act.operates_keeps.hand wire scope request

namespace Client

variable (client : Client) (scope : Scope) (repository : String) (digest : Digest)

theorem keeps_holds : (client.holds scope repository digest).Within Run.Keeps :=
  Act.operates_keeps.holds client scope repository digest client.logger

theorem keeps_download : (client.download scope repository digest).Within Run.Keeps :=
  Act.operates_keeps.download client scope repository digest client.logger

theorem keeps_upload (content : Content) :
    (client.upload scope repository digest content).Within Run.Keeps :=
  Act.operates_keeps.upload client scope repository digest content client.logger

theorem keeps_document {α : Type} (decoder : Json.Decoder α) :
    (client.document decoder scope repository digest).Within Run.Keeps :=
  Act.operates_keeps.document client scope repository digest decoder client.logger

end Client

end OciBlobs
