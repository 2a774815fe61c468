/-
# `Proofs.Digest.Stream` — the digest of a file, however its reads come

A file is hashed through one buffer.  Every read fills it anew from its front
and leaves behind that what earlier reads have put there, and only what was
filled is hashed (`hashLoop`).  How much a read gives is the system's choice
(`OpenFile.serving`), within bounds: it gives something while anything is left,
and never more than is left or than the buffer holds.

What the loop hashes is then the reads of the file, cut as the system likes
(`hashLoop_eq`), and these are its whole content, or a part of it and the error
that ended it (`served_cases`).
-/
import OciBlobs.Command
import OciBlobs.Proofs.Digest
import OciBlobs.Proofs.Files

namespace OciBlobs

/-- A file that was opened: what is in it, and for the read of each number how
much the system would give, or why it fails. -/
structure OpenFile where
  content : Bytes
  serving : Nat → Except IoError Nat

namespace Digest

/-! ## Reading through a buffer -/

/-- How much a read gives that would give `size`: something and no more than
there is room for, as long as anything is left. -/
def given (size room left : Nat) : Nat :=
  min (max 1 size) (min room left)

theorem given_eq_zero {size room left : Nat} (hroom : 0 < room) :
    given size room left = 0 ↔ left = 0 := by
  unfold given
  omega

theorem given_le {size room left : Nat} : given size room left ≤ min room left :=
  Nat.min_le_right ..

theorem length_taken (size room : Nat) (left : Bytes) :
    (left.take (given size room left.length)).length = given size room left.length := by
  rw [List.length_take]
  exact Nat.min_eq_left (Nat.le_trans given_le (Nat.min_le_right ..))

/-- Hashes what is left of a file, from the read of a number on, until a read
gives nothing. -/
def hashLoop (serving : Nat → Except IoError Nat) (number : Nat) (left buffer : Bytes)
    (hasher : Sha256.Hasher) : Except IoError Sha256.Hasher :=
  match serving number with
  | .error error => .error error
  | .ok size =>
    let count := given size buffer.length left.length
    if count = 0 then .ok hasher
    else
      let filled := left.take count ++ buffer.drop count
      hashLoop serving (number + 1) (left.drop count) filled (hasher.update (filled.take count))
termination_by left.length
decreasing_by
  have hle : count ≤ min buffer.length left.length := given_le
  rw [List.length_drop]
  omega

/-- The `sha256` digest of a file, unless it cannot be opened or read. -/
def ofFile (opened : Except IoError OpenFile) : Except Failure Digest :=
  let hashed := do
    let file ← opened
    let hasher ← hashLoop file.serving 0 file.content (List.replicate Files.readSize 0) {}
    pure (ofHash hasher.finish)
  hashed.mapError .io

/-! ## What the system serves -/

/-- The reads of what is left of a file, from the one of a number on. -/
def served (serving : Nat → Except IoError Nat) (number : Nat) (left : Bytes) :
    List (Except IoError Bytes) :=
  match serving number with
  | .error error => [.error error]
  | .ok size =>
    let count := given size Files.readSize left.length
    if count = 0 then []
    else .ok (left.take count) :: served serving (number + 1) (left.drop count)
termination_by left.length
decreasing_by
  have hle : count ≤ min Files.readSize left.length := given_le
  rw [List.length_drop]
  omega

/-- A read that a buffer can take. -/
def FitsBuffer (piece : Bytes) : Prop :=
  piece ≠ [] ∧ piece.length ≤ Files.readSize

theorem fits_taken {size : Nat} {left : Bytes} (h : given size Files.readSize left.length ≠ 0) :
    FitsBuffer (left.take (given size Files.readSize left.length)) := by
  have hlength := length_taken size Files.readSize left
  refine ⟨fun hnil => h ?_, ?_⟩
  · rw [← hlength, hnil]
    rfl
  · rw [hlength]
    exact Nat.le_trans given_le (Nat.min_le_left ..)

section
variable {serving : Nat → Except IoError Nat}

theorem served_of_error {number : Nat} {error : IoError} (h : serving number = .error error)
    (left : Bytes) : served serving number left = [.error error] := by
  rw [served, h]

theorem served_nil {number size : Nat} (h : serving number = .ok size) :
    served serving number [] = [] := by
  rw [served, h]
  exact if_pos ((given_eq_zero (by decide)).mpr rfl)

theorem hashLoop_eq (serving : Nat → Except IoError Nat) (number : Nat) (left buffer : Bytes)
    (hasher : Sha256.Hasher) (hbuffer : buffer.length = Files.readSize) :
    hashLoop serving number left buffer hasher =
      hashReads hasher (served serving number left) := by
  rw [hashLoop, served]
  cases serving number with
  | error error => rfl
  | ok size =>
      dsimp only
      rw [hbuffer]
      have hlength := length_taken size Files.readSize left
      by_cases hcount : given size Files.readSize left.length = 0
      · rw [if_pos hcount, if_pos hcount]
        rfl
      · have hne := (fits_taken hcount).1
        rw [if_neg hcount, if_neg hcount]
        have hle : given size Files.readSize left.length ≤ min Files.readSize left.length :=
          given_le
        generalize given size Files.readSize left.length = count at hcount hlength hne hle ⊢
        obtain ⟨b, rest, hread⟩ := List.exists_cons_of_ne_nil hne
        have hfilled : (left.take count ++ buffer.drop count).length = Files.readSize := by
          rw [List.length_append, List.length_drop]
          omega
        rw [hashLoop_eq serving (number + 1) _ _ _ hfilled, List.take_left' hlength, hread]
        rfl
termination_by left.length
decreasing_by
  rw [List.length_drop]
  omega

/-- The reads of a file are its content in pieces, or end with an error before
all of it was read. -/
theorem served_cases (serving : Nat → Except IoError Nat) (number : Nat) (left : Bytes) :
    ∃ pieces : List Bytes, (∀ piece ∈ pieces, FitsBuffer piece) ∧
      ((served serving number left = pieces.map .ok ∧ pieces.flatten = left) ∨
      ∃ error later, served serving number left = pieces.map .ok ++ [.error error] ∧
        serving later = .error error) := by
  rw [served]
  cases hserve : serving number with
  | error error => exact ⟨[], by simp, .inr ⟨error, number, rfl, hserve⟩⟩
  | ok size =>
      dsimp only
      by_cases hcount : given size Files.readSize left.length = 0
      · rw [if_pos hcount]
        have hnone : left.length = 0 := (given_eq_zero (by decide)).mp hcount
        exact ⟨[], by simp, .inl ⟨rfl, (List.length_eq_zero_iff.mp hnone).symm⟩⟩
      · rw [if_neg hcount]
        have hfits := fits_taken hcount
        have hle : given size Files.readSize left.length ≤ min Files.readSize left.length :=
          given_le
        generalize given size Files.readSize left.length = count at hcount hfits hle ⊢
        obtain ⟨pieces, hpieces, hcases⟩ := served_cases serving (number + 1) (left.drop count)
        refine ⟨left.take count :: pieces, List.forall_mem_cons.mpr ⟨hfits, hpieces⟩, ?_⟩
        rcases hcases with ⟨hserved, hflat⟩ | ⟨error, later, hserved, hlater⟩
        · refine .inl ⟨by rw [hserved]; rfl, ?_⟩
          rw [List.flatten_cons, hflat, List.take_append_drop]
        · exact .inr ⟨error, later, by rw [hserved]; rfl, hlater⟩
termination_by left.length
decreasing_by
  rw [List.length_drop]
  omega

theorem served_pieces {pieces : List Bytes} (hpieces : ∀ piece ∈ pieces, FitsBuffer piece)
    (rest : Bytes) : ∀ number : Nat,
      (∀ i piece, pieces[i]? = some piece → serving (number + i) = .ok piece.length) →
      served serving number (pieces.flatten ++ rest) =
        pieces.map .ok ++ served serving (number + pieces.length) rest := by
  induction pieces with
  | nil => exact fun _ _ => rfl
  | cons piece others ih =>
      intro number hserve
      obtain ⟨⟨hne, hfits⟩, hothers⟩ := List.forall_mem_cons.mp hpieces
      have hpos : 0 < piece.length := List.length_pos_iff.mpr hne
      have hcount : given piece.length Files.readSize
          ((piece :: others).flatten ++ rest).length = piece.length := by
        unfold given
        rw [List.flatten_cons, List.length_append, List.length_append]
        omega
      have hnext := ih hothers (number + 1) fun i other hi => by
        rw [Nat.add_assoc, Nat.add_comm 1]
        exact hserve (i + 1) other hi
      rw [served, show serving number = .ok piece.length from hserve 0 piece rfl]
      dsimp only
      rw [hcount, if_neg (by omega), List.flatten_cons, List.append_assoc, List.take_left,
        List.drop_left, hnext, List.length_cons, Nat.add_assoc number, Nat.add_comm 1]
      rfl

end

/-- With every read as full as it can be, a file is read as it is pushed. -/
theorem served_full (number : Nat) (left : Bytes) :
    served (fun _ => .ok Files.readSize) number left = (Files.readsOf left).map .ok := by
  rw [served, Files.readsOf]
  dsimp only
  have hgiven : given Files.readSize Files.readSize left.length =
      min Files.readSize left.length := by
    unfold given Files.readSize
    omega
  rw [hgiven]
  by_cases hlast : left.length ≤ Files.readSize
  · rw [if_pos hlast, Nat.min_eq_right hlast, List.take_length, List.drop_length]
    cases left with
    | nil => rfl
    | cons b rest =>
        have hend : served (fun _ => .ok Files.readSize) (number + 1) [] = [] := served_nil rfl
        rw [if_neg (by simp), hend]
        rfl
  · have hmore : min Files.readSize left.length = Files.readSize := by omega
    rw [hmore, if_neg hlast, if_neg (by decide), served_full]
    rfl
termination_by left.length
decreasing_by
  rw [List.length_drop]
  unfold Files.readSize at *
  omega

end Digest

def OpenFile.reads (file : OpenFile) : List (Except IoError Bytes) :=
  Digest.served file.serving 0 file.content

/-- An entry that was opened: a file is read in full reads, and a directory
not at all. -/
def Entry.opened : Entry → OpenFile
  | .file content => ⟨content, fun _ => .ok Files.readSize⟩
  | .directory => ⟨[], fun _ => .error Files.isDirectory⟩

theorem Entry.reads_opened (entry : Entry) : entry.opened.reads = entry.reads := by
  cases entry with
  | file content => exact Digest.served_full 0 content
  | directory => exact Digest.served_of_error rfl []

/-! ## The digest of a file -/

namespace Digest

theorem hashReads_error {pieces : List Bytes} (h : ∀ piece ∈ pieces, FitsBuffer piece)
    (error : IoError) (hasher : Sha256.Hasher) :
    hashReads hasher (pieces.map .ok ++ [.error error]) = .error error := by
  induction pieces generalizing hasher with
  | nil => rfl
  | cons piece others ih =>
      obtain ⟨⟨hne, -⟩, hothers⟩ := List.forall_mem_cons.mp h
      obtain ⟨b, bytes, rfl⟩ := List.exists_cons_of_ne_nil hne
      exact ih hothers _

theorem ofFile_eq (file : OpenFile) : ofFile (.ok file) = (ofReads file.reads).mapError .io := by
  have hloop := hashLoop_eq file.serving 0 file.content
    (List.replicate Files.readSize 0) {} List.length_replicate
  show (hashLoop _ _ _ _ _ >>= _).mapError Failure.io = _
  rw [hloop]
  rfl

/-- How reading a file ends: with the digest of all of it, or with an error and
nothing else. -/
theorem ofFile_cases (file : OpenFile) : ∃ pieces : List Bytes,
    (∀ piece ∈ pieces, FitsBuffer piece) ∧
    ((file.reads = pieces.map .ok ∧ ofFile (.ok file) = .ok (sha256 file.content)) ∨
      ∃ error later, file.reads = pieces.map .ok ++ [.error error] ∧
        file.serving later = .error error ∧ ofFile (.ok file) = .error (.io error)) := by
  obtain ⟨pieces, hpieces, hcases⟩ := served_cases file.serving 0 file.content
  refine ⟨pieces, hpieces, ?_⟩
  rcases hcases with ⟨hserved, hflat⟩ | ⟨error, later, hserved, hlater⟩
  · refine .inl ⟨hserved, ?_⟩
    rw [ofFile_eq, OpenFile.reads, hserved, ofReads_ok fun piece hm => (hpieces piece hm).1, hflat]
    rfl
  · refine .inr ⟨error, later, hserved, hlater, ?_⟩
    rw [ofFile_eq, OpenFile.reads, hserved]
    show (hashReads {} _ >>= _).mapError Failure.io = _
    rw [hashReads_error hpieces]
    rfl

/-- Serves pieces one by one, and then what is said. -/
def inPieces (pieces : List Bytes) (last : Except IoError Nat) (number : Nat) :
    Except IoError Nat :=
  match pieces[number]? with
  | some piece => .ok piece.length
  | none => last

theorem served_inPieces {pieces : List Bytes} (hpieces : ∀ piece ∈ pieces, FitsBuffer piece)
    (last : Except IoError Nat) (rest : Bytes) :
    served (inPieces pieces last) 0 (pieces.flatten ++ rest) =
      pieces.map .ok ++ served (inPieces pieces last) pieces.length rest := by
  have hserve (i : Nat) (piece : Bytes) (hi : pieces[i]? = some piece) :
      inPieces pieces last (0 + i) = .ok piece.length := by
    rw [Nat.zero_add, inPieces, hi]
  have hserved := served_pieces hpieces rest 0 hserve
  rwa [Nat.zero_add] at hserved

/-- The digest of a file, whatever its system makes of the reads.

If no read fails, reading comes to an end with the digest of the whole content;
if opening the file or a read fails, it ends with this error.  It never ends with
any other digest.  All ways to cut content into pieces that are not empty and fit
the buffer are among the ways in which it is read, and an error may come behind
any of them.  A file is pushed under the digest that is found so. -/
theorem streamed_digest_is_that_of_content :
    (∀ file : OpenFile,
      ((∀ number, ∃ size, file.serving number = .ok size) →
        ofFile (.ok file) = .ok (sha256 file.content)) ∧
      ((∀ error, .error error ∉ file.reads) →
        ofFile (.ok file) = .ok (sha256 file.content)) ∧
      (∀ error, .error error ∈ file.reads → ofFile (.ok file) = .error (.io error)) ∧
      (∀ digest, ofFile (.ok file) = .ok digest → digest = sha256 file.content) ∧
      ∀ piece, .ok piece ∈ file.reads → piece ≠ [] ∧ piece.length ≤ 65536) ∧
    (∀ pieces : List Bytes, (∀ piece ∈ pieces, piece ≠ [] ∧ piece.length ≤ 65536) →
      (∃ file : OpenFile, file.content = pieces.flatten ∧ file.reads = pieces.map .ok ∧
        ∀ number, ∃ size, file.serving number = .ok size) ∧
      ∀ (rest : Bytes) (error : IoError), ∃ file : OpenFile,
        file.content = pieces.flatten ++ rest ∧
        file.reads = pieces.map .ok ++ [.error error]) ∧
    (∀ error, ofFile (.error error) = .error (.io error)) ∧
    ∀ (files : Files) (path : String),
      CommandLine.digestToPush files path none = ofFile ((files.open? path).map Entry.opened) := by
  refine ⟨fun file => ?_, fun pieces hpieces => ⟨?_, fun rest error => ?_⟩, fun _ => rfl,
    fun files path => ?_⟩
  · obtain ⟨pieces, hpieces, ⟨hreads, hdigest⟩ | ⟨error, later, hreads, hlater, hfails⟩⟩ :=
      ofFile_cases file
    · have hno (error : IoError) : .error error ∉ file.reads := by simp [hreads]
      refine ⟨fun _ => hdigest, fun _ => hdigest, fun error he => absurd he (hno error),
        fun digest hd => ?_, fun piece hm => hpieces piece (by simpa [hreads] using hm)⟩
      exact Except.ok.inj (hd.symm.trans hdigest)
    · refine ⟨fun hserves => ?_, fun hno => ?_, fun other he => ?_, fun digest hd => ?_,
        fun piece hm => hpieces piece (by simpa [hreads] using hm)⟩
      · obtain ⟨size, hsize⟩ := hserves later
        cases hlater.symm.trans hsize
      · exact absurd (by simp [hreads]) (hno error)
      · obtain rfl : other = error := by simpa [hreads] using he
        exact hfails
      · cases hfails.symm.trans hd
  · refine ⟨⟨pieces.flatten, inPieces pieces (.ok 0)⟩, rfl, ?_, fun number => ?_⟩
    · have hserved := served_inPieces hpieces (.ok 0) []
      have hend : inPieces pieces (.ok 0) pieces.length = .ok 0 := by simp [inPieces]
      rw [served_nil hend, List.append_nil, List.append_nil] at hserved
      exact hserved
    · show ∃ size, inPieces pieces (.ok 0) number = .ok size
      unfold inPieces
      cases pieces[number]? with
      | some piece => exact ⟨_, rfl⟩
      | none => exact ⟨_, rfl⟩
  · refine ⟨⟨pieces.flatten ++ rest, inPieces pieces (.error error)⟩, rfl, ?_⟩
    have hserved := served_inPieces hpieces (.error error) rest
    have hend : inPieces pieces (.error error) pieces.length = .error error := by
      simp [inPieces]
    rw [served_of_error hend] at hserved
    exact hserved
  · show ((files.open? path).mapError Failure.io >>= fun entry =>
      (ofReads entry.reads).mapError Failure.io) = _
    cases files.open? path with
    | error error => rfl
    | ok entry =>
        show (ofReads entry.reads).mapError Failure.io = ofFile (.ok entry.opened)
        rw [ofFile_eq, Entry.reads_opened]

end Digest

end OciBlobs
