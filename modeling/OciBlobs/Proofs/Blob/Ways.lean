/-
# `Proofs.Blob.Ways` — all ways of reading a body agree

A body is read piece after piece, and what becomes of that does not depend on
who reads it (`Course`): pieces come in, each asked for in a scope that goes
on, until one of these happens.

    whole      nothing is left, and the scope goes on    it ends well
    ended      the scope has ended before the next step   its failure
    cut        the next piece does not come in            what became of it

Taking piece after piece, draining the stream of items, and copying into a
sink that takes everything are one way of reading (`TakesEach`): they give the
octets that came in, and end as the course ends (`TakesEach.follows`).  Reading
the whole body at once asks for the scope only at the beginning.  It follows
the course too, unless a piece that came in had cancelled the scope
(`whole_follows`).
-/
import OciBlobs.Command
import OciBlobs.Proofs.Blob.Document

namespace OciBlobs

open Http

/-! ## Outcomes with something told -/

namespace Outcome

variable {α β : Type}

def giving (ending : Outcome Unit) (a : α) : Outcome α :=
  match ending with
  | .ok () => .ok a
  | .failed failure => .failed failure
  | .stuck => .stuck
  | .overflow => .overflow

/-- An ending whose failure, if there is one, is told as part of a value. -/
def told (ending : Outcome Unit) (tell : Option Failure → α) : Outcome α :=
  match ending with
  | .ok () => .ok (tell none)
  | .failed failure => .ok (tell (some failure))
  | .stuck => .stuck
  | .overflow => .overflow

end Outcome

namespace Act

variable {α β : Type} {run after : Run} {ending : Outcome Unit}

theorem map_told {act : Act α} {tell : Option Failure → α}
    (h : act run = (ending.told tell, after)) (f : α → β) :
    (f <$> act) run = (ending.told fun failure => f (tell failure), after) := by
  rw [map_run, bind_run, h]
  cases ending <;> rfl

/-- An action that does not come to a value, followed by one that tells its
failure. -/
theorem attempt_told {act : Act α} {next : Except Failure α → Act β}
    {tell : Option Failure → β} {outcome : Outcome α} (h : act run = (outcome, after))
    (hne : ∀ a, outcome ≠ .ok a)
    (hnext : ∀ failure, next (.error failure) = pure (tell (some failure))) :
    (act.attempt >>= next) run = (outcome.forget.told tell, after) := by
  rw [bind_run, attempt_run, h]
  cases outcome with
  | ok a => exact absurd rfl (hne a)
  | failed failure =>
      show next (.error failure) after = _
      rw [hnext]
      rfl
  | stuck => rfl
  | overflow => rfl

theorem attempt_ok {act : Act α} {a : α} (h : act run = (.ok a, after)) :
    act.attempt run = (.ok (.ok a), after) := by
  rw [attempt_run, h]

end Act

namespace Download

variable {scope : Scope} {body : List Piece} {run after : Run} {datas : List Bytes}
  {ending : Outcome Unit}

/-! ## The course of a reading -/

/-- What comes in of a body that is read from a state on, how that ends, and
the state then. -/
inductive Course (scope : Scope) :
    List Piece → Run → List Bytes → Outcome Unit → Run → Prop
  | whole {run : Run} (goesOn : scope.endedIn? run = none) : Course scope [] run [] (.ok ()) run
  | ended {body : List Piece} {run : Run} {failure : Failure}
      (ended : scope.endedIn? run = some failure) : Course scope body run [] (.failed failure) run
  | cut {piece : Piece} {rest : List Piece} {run after : Run} {outcome : Outcome Bytes}
      (goesOn : scope.endedIn? run = none) (stops : piece.receive scope run = (outcome, after))
      (nothing : ∀ data, outcome ≠ .ok data) :
      Course scope (piece :: rest) run [] outcome.forget after
  | arrives {piece : Piece} {rest : List Piece} {run mid after : Run} {data : Bytes}
      {datas : List Bytes} {ending : Outcome Unit}
      (goesOn : scope.endedIn? run = none) (comes : piece.receive scope run = (.ok data, mid))
      (more : Course scope rest mid datas ending after) :
      Course scope (piece :: rest) run (data :: datas) ending after

theorem course_exists (scope : Scope) :
    ∀ (body : List Piece) (run : Run), ∃ datas ending after,
      Course scope body run datas ending after := by
  intro body
  induction body with
  | nil =>
      intro run
      cases he : scope.endedIn? run with
      | none => exact ⟨_, _, _, .whole he⟩
      | some failure => exact ⟨_, _, _, .ended he⟩
  | cons piece rest ih =>
      intro run
      cases he : scope.endedIn? run with
      | some failure => exact ⟨_, _, _, .ended he⟩
      | none =>
          cases hp : piece.receive scope run with | mk outcome mid => ?_
          by_cases hok : ∃ data, outcome = .ok data
          · obtain ⟨data, rfl⟩ := hok
            obtain ⟨datas, ending, after, hc⟩ := ih mid
            exact ⟨_, _, _, .arrives he hp hc⟩
          · exact ⟨_, _, _, .cut he hp (not_exists.mp hok)⟩

/-- How a reading closes before what is left of a body. -/
inductive Closes (scope : Scope) : List Piece → Outcome Unit → Run → Prop
  | whole {after : Run} (goesOn : scope.endedIn? after = none) : Closes scope [] (.ok ()) after
  | broken {piece : Piece} {rest : List Piece} {after : Run} (breaks : piece.data = none) :
      Closes scope (piece :: rest) (.failed (.exchange .answerBody)) after
  | ended {left : List Piece} {after : Run} {failure : Failure}
      (ended : scope.endedIn? after = some failure) : Closes scope left (.failed failure) after
  | endless {piece : Piece} {rest : List Piece} {after : Run} (stalls : .stall ∈ piece.before)
      (goesOn : scope.endedIn? after = none) (noDeadline : scope.deadline = none) :
      Closes scope (piece :: rest) .stuck after

namespace Course

/-- What comes in are the first pieces of the body, all of them if the reading
ends well, and what follows them is why it does not. -/
theorem closes (h : Course scope body run datas ending after) :
    ∃ came left, body = came ++ left ∧ came.map (·.data) = datas.map some ∧
      Closes scope left ending after := by
  induction h with
  | whole hopen => exact ⟨[], [], rfl, rfl, .whole hopen⟩
  | ended he => exact ⟨[], _, rfl, rfl, .ended he⟩
  | @cut piece left run after outcome hopen hstops hnothing =>
      refine ⟨[], piece :: left, rfl, rfl, ?_⟩
      have ht := take_ends scope piece run
      rw [Scope.guarded_of_open hopen, hstops] at ht
      cases ht with
      | data => exact absurd rfl (hnothing _)
      | broken _ hnone => exact .broken hnone
      | ended he => exact .ended he
      | endless hs hopen hd => exact .endless hs hopen hd
  | @arrives piece _ run mid after data datas ending hopen hcomes _ ih =>
      obtain ⟨came, left, rfl, hcame, hcloses⟩ := ih
      refine ⟨piece :: came, left, rfl, ?_, hcloses⟩
      have ht := take_ends scope piece run
      rw [Scope.guarded_of_open hopen, hcomes] at ht
      cases ht with
      | data _ hdata => simp [hdata, hcame]

end Course

/-! ## The readers that ask before every piece -/

/-- A way of reading that takes one piece after the other: it asks for the
scope before each of them and at the end, puts what comes in in front of what
follows, and stops at the first failure.  It comes to what `tell` makes of the
pieces and the failure. -/
structure TakesEach {α : Type} (scope : Scope) (tell : List Bytes → Option Failure → α)
    (add : Bytes → α → α) (read : Nat → List Piece → Act α) : Prop where
  keeps : ∀ data datas failure, add data (tell datas failure) = tell (data :: datas) failure
  atEnd : ∀ taken, read taken [] = scope.check.attempt >>= fun result =>
    match result with
    | .ok () => pure (tell [] none)
    | .error failure => pure (tell [] (some failure))
  onward : ∀ taken piece rest, read taken (piece :: rest) =
    (scope.guarded (piece.receive scope)).attempt >>= fun result =>
      match result with
      | .ok data => add data <$> read (taken + data.length) rest
      | .error failure => pure (tell [] (some failure))

theorem TakesEach.follows {α : Type} {tell : List Bytes → Option Failure → α}
    {add : Bytes → α → α} {read : Nat → List Piece → Act α}
    (hr : TakesEach scope tell add read) (h : Course scope body run datas ending after) :
    ∀ taken, read taken body run = (ending.told (tell datas), after) := by
  induction h with
  | @whole run hopen =>
      intro taken
      rw [hr.atEnd, Act.bind_ok (Act.attempt_ok (Scope.check_of_open hopen))]
      rfl
  | @ended body run failure he =>
      intro taken
      cases body with
      | nil =>
          rw [hr.atEnd]
          exact Act.attempt_told (Scope.check_of_ended he) nofun fun _ => rfl
      | cons piece rest =>
          rw [hr.onward]
          exact Act.attempt_told (Scope.guarded_of_ended he _) nofun fun _ => rfl
  | cut hopen hstops hnothing =>
      intro taken
      rw [hr.onward]
      exact Act.attempt_told ((Scope.guarded_of_open hopen _).trans hstops) hnothing fun _ => rfl
  | @arrives piece rest run mid after data datas ending hopen hcomes _ ih =>
      intro taken
      have htake := (Scope.guarded_of_open hopen (piece.receive scope)).trans hcomes
      rw [hr.onward, Act.bind_ok (Act.attempt_ok htake)]
      have hmore := Act.map_told (ih (taken + data.length)) (add data)
      simp only [hr.keeps] at hmore
      exact hmore

theorem takesEach_pieces (download : Download) :
    TakesEach download.scope (fun datas failure => { pieces := datas, failure }) Reading.after
      fun _ body => nextUpTo (body.length + 1) (download.withBody body) where
  keeps _ _ _ := rfl
  atEnd _ := by
    show Act.attempt ((fun _ => none) <$> download.scope.check) >>= _ = _
    rw [Act.attempt_map, Act.bind_assoc]
    congr
    funext result
    cases result <;> rfl
  onward _ piece rest := by
    show (download.withBody (piece :: rest)).next.attempt >>= _ = _
    rw [next_cons, Act.attempt_map, Act.bind_assoc]
    congr
    funext result
    cases result <;> rfl

theorem takesEach_items (scope : Scope) :
    TakesEach scope
      (fun datas failure =>
        datas.map .ok ++ (failure.map fun failure => .error (.carrying failure)).toList)
      (fun data => (.ok data :: ·)) fun _ => itemsOf scope where
  keeps _ _ _ := rfl
  atEnd _ := rfl
  onward _ _ _ := rfl

theorem write_boundless (full : IoError) : ∀ (taken : Nat) (datas : List Bytes),
    write { room := none, full } taken datas = { pieces := datas }
  | _, [] => rfl
  | taken, data :: rest => by
      rw [write, write_boundless full (taken + data.length) rest]
      rfl

theorem writesOf_flatten (data : Bytes) : (writesOf data).flatten = data := by
  fun_induction writesOf data with
  | case1 data _ hempty => simp_all
  | case2 data _ _ => simp
  | case3 data _ ih => simp [ih]

theorem flatten_writes (datas : List Bytes) :
    (datas.flatMap writesOf).flatten = datas.flatten := by
  induction datas with
  | nil => rfl
  | cons data rest ih =>
      rw [List.flatMap_cons, List.flatten_append, ih, writesOf_flatten, List.flatten_cons]

theorem takesEach_copy (scope : Scope) (full : IoError) :
    TakesEach scope (fun datas failure => { pieces := datas.flatMap writesOf, failure })
      (fun data more => { more with pieces := writesOf data ++ more.pieces })
      (copyFrom scope { room := none, full }) where
  keeps _ _ _ := rfl
  atEnd _ := rfl
  onward taken piece rest := by
    rw [copyFrom]
    congr
    funext result
    cases result with
    | error failure => rfl
    | ok data =>
        simp only [write_boundless]
        rfl

/-! ## Reading the whole body at once -/

/-- Nothing that happens before the piece cancels the scope. -/
def Spares (scope : Scope) (piece : Piece) : Prop :=
  ∀ token, .cancel token ∈ piece.before → ¬token <:+ scope.token

end Download

theorem Scope.open_of_await {scope : Scope} {after : Run} :
    ∀ {moments : List Moment} {run : Run},
      (∀ token, .cancel token ∈ moments → ¬token <:+ scope.token) →
      scope.endedIn? run = none → scope.await none moments run = (.ok (), after) →
      scope.endedIn? after = none := by
  intro moments
  induction moments with
  | nil =>
      intro run _ hopen h
      cases h
      exact hopen
  | cons moment rest ih =>
      intro run hspare hopen h
      have hrest (token : Token) (hm : .cancel token ∈ rest) : ¬token <:+ scope.token :=
        hspare token (List.mem_cons_of_mem _ hm)
      cases moment with
      | cancel token =>
          refine ih hrest ?_ h
          obtain ⟨hc, ho⟩ := endedIn_eq_none.mp hopen
          refine endedIn_eq_none.mpr ⟨?_, ho⟩
          have htoken : token.isSuffixOf scope.token = false := by
            rw [Bool.eq_false_iff, ne_eq, List.isSuffixOf_iff_suffix]
            exact hspare token List.mem_cons_self
          show (token.isSuffixOf scope.token || scope.token.isCancelled run.cancelled) = false
          rw [htoken, hc]
          rfl
      | pass nanos =>
          have hb : (scope.waitFor none (some (run.now + nanos)) >>= fun _ =>
              scope.await none rest) run = (.ok (), after) := h
          obtain ⟨_, mid, hwait, hlive⟩ := Act.bind_eq_ok hb
          have hw := scope.waitFor_ends none (some (run.now + nanos)) run
          rw [hwait] at hw
          cases hw with
          | waited hmid => exact ih hrest hmid hlive
      | stall =>
          exact absurd (congrArg Prod.fst h) (scope.waitFor_none_ne_ok none run)

namespace Download

variable {scope : Scope} {body : List Piece} {run after : Run} {datas : List Bytes}
  {ending : Outcome Unit} {download : Download}

theorem open_of_receive {piece : Piece} {mid : Run} {data : Bytes} (hspare : Spares scope piece)
    (hopen : scope.endedIn? run = none) (hcomes : piece.receive scope run = (.ok data, mid)) :
    scope.endedIn? mid = none := by
  obtain ⟨_, waited, hwait, hdata⟩ := Act.bind_eq_ok hcomes
  have hmid : waited = mid := by
    cases hd : piece.data with
    | none =>
        rw [hd] at hdata
        cases hdata
    | some _ =>
        rw [hd] at hdata
        exact congrArg Prod.snd hdata
  exact hmid ▸ Scope.open_of_await hspare hopen hwait

/-- Pieces that are received without asking again, in a scope that goes on. -/
theorem receiveAll_follows (h : Course scope body run datas ending after)
    (hspare : ∀ piece ∈ body.take datas.length, Spares scope piece)
    (hopen : scope.endedIn? run = none) :
    (body.mapM fun piece : Piece => piece.receive scope) run = (ending.giving datas, after) := by
  induction h with
  | whole _ => rfl
  | ended he =>
      rw [hopen] at he
      cases he
  | @cut piece rest run after outcome _ hstops hnothing =>
      rw [List.mapM_cons, Act.bind_run, hstops]
      cases outcome with
      | ok data => exact absurd rfl (hnothing data)
      | failed failure => rfl
      | stuck => rfl
      | overflow => rfl
  | @arrives piece rest run mid after data datas ending _ hcomes _ ih =>
      rw [List.length_cons, List.take_succ_cons] at hspare
      have hmid := open_of_receive (hspare piece List.mem_cons_self) hopen hcomes
      have hrest := ih (fun piece hm => hspare piece (List.mem_cons_of_mem _ hm)) hmid
      rw [List.mapM_cons, Act.bind_ok hcomes, Act.bind_run, hrest]
      cases ending <;> rfl

theorem whole_follows (h : Course download.scope download.response.body run datas ending after)
    (hspare : ∀ piece ∈ download.response.body.take datas.length, Spares download.scope piece) :
    download.whole run = (ending.giving datas.flatten, after) := by
  cases he : download.scope.endedIn? run with
  | some failure =>
      have hwhole : download.whole run = (.failed failure, run) := Scope.guarded_of_ended he _
      rw [hwhole]
      generalize download.response.body = body at h
      cases h with
      | ended he' =>
          rw [he] at he'
          cases he'
          rfl
      | whole hopen => simp [he] at hopen
      | cut hopen => simp [he] at hopen
      | arrives hopen => simp [he] at hopen
  | none =>
      have hall := receiveAll_follows h hspare he
      show download.scope.guarded (List.flatten <$> _) run = _
      rw [Scope.guarded_of_open he, Act.map_run, Act.bind_run, hall]
      cases ending <;> rfl

/-! ## The ways agree -/

theorem printOut_follows (h : Course download.scope download.response.body run datas ending after) :
    (CommandLine.printOut download run).1 = ending.giving datas.flatten.length := by
  have hcopy : download.copy {} run =
      (ending.told fun failure => { pieces := datas.flatMap writesOf, failure }, after) :=
    (takesEach_copy download.scope _).follows h 0
  unfold CommandLine.printOut
  rw [Act.bind_run, hcopy]
  cases ending with
  | ok _ =>
      show Outcome.ok (datas.flatMap writesOf).flatten.length = .ok datas.flatten.length
      rw [flatten_writes]
  | failed failure => rfl
  | stuck => rfl
  | overflow => rfl

/-- Every reading of a body gives the octets that came in before it ended, and
ends as every other.  If it ends well these are all of the body; if it fails,
the body broke off there or the scope has ended.  What is copied is counted
right, and a stream has nothing behind its error.  Read as a whole, the body
comes to the same if no piece that came in cancels the scope. -/
theorem ways_of_reading_agree (download : Download) (full : IoError) (run : Run) :
    let scope := download.scope
    let body := download.response.body
    ∃ datas ending after,
      Course scope body run datas ending after ∧
      (∃ came left, body = came ++ left ∧ came.map (·.data) = datas.map some ∧
        Closes scope left ending after) ∧
      (ending = .ok () → body.map (·.data) = datas.map some) ∧
      (∀ failure, ending = .failed failure → failure = .exchange .answerBody ∨
        failure = .cancelled ∨ failure = .deadlineExceeded) ∧
      download.pieces run = (ending.told fun failure => { pieces := datas, failure }, after) ∧
      download.items run = (ending.told fun failure =>
        datas.map .ok ++ (failure.map fun failure => .error (.carrying failure)).toList, after) ∧
      download.copy { room := none, full } run = (ending.told fun failure =>
        { pieces := datas.flatMap writesOf, failure }, after) ∧
      (datas.flatMap writesOf).flatten = datas.flatten ∧
      (CommandLine.printOut download run).1 = ending.giving datas.flatten.length ∧
      ((∀ piece ∈ body.take datas.length, Spares scope piece) →
        download.whole run = (ending.giving datas.flatten, after)) := by
  intro scope body
  obtain ⟨datas, ending, after, hc⟩ := course_exists scope body run
  obtain ⟨came, left, hbody, hcame, hcloses⟩ := hc.closes
  have hall : ending = .ok () → body.map (·.data) = datas.map some := by
    rintro rfl
    cases hcloses with
    | whole _ => rw [hbody, List.append_nil, hcame]
  have hcause (failure : Failure) (hf : ending = .failed failure) :
      failure = .exchange .answerBody ∨ failure = .cancelled ∨ failure = .deadlineExceeded := by
    subst hf
    cases hcloses with
    | broken _ => exact .inl rfl
    | ended he =>
        rcases Scope.endedIn_eq_some.mp he with ⟨-, hcancelled⟩ | ⟨-, -, hover⟩
        · exact .inr (.inl hcancelled)
        · exact .inr (.inr hover)
  exact ⟨datas, ending, after, hc, ⟨came, left, hbody, hcame, hcloses⟩, hall, hcause,
    (takesEach_pieces download).follows hc 0, (takesEach_items scope).follows hc 0,
    (takesEach_copy scope full).follows hc 0, flatten_writes datas, printOut_follows hc,
    whole_follows hc⟩

end Download

end OciBlobs
