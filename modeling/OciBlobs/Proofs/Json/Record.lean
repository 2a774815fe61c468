/-
# `Proofs.Json.Record` — what is printed is taken back

`Decoder.Takes decoder depth value a` says that off the text of `value` the
decoder takes `a`, whatever may follow a value there.  A record is taken back
member by member: each one that names a field which has not been given moves
the state on (`Record.Moves`), and the moves make up a course from the blank
state to one that is complete (`Record.Course`).

A decoder that takes the text of a value takes a document or a stream which
holds that text and nothing else (`Takes.ofText`, `Takes.ofStream`).
-/
import OciBlobs.Json.Decoder
import OciBlobs.Proofs.Json.Scalar

namespace OciBlobs.Json

open Reader

variable {α β σ : Type} {rest : List Char} {depth : Nat}

/-! ## Tokens and brackets -/

namespace Reader

theorem reads_peekValue {c : Char} (h : isToken c = true) (rest : List Char) :
    peekValue.Reads (c :: rest) (octet c) (c :: rest) :=
  (reads_peekPastBlanks h rest).bind (reads_pure _ _)

theorem reads_colon (rest : List Char) : colon.Reads (':' :: rest) () rest :=
  (reads_peekPastBlanks (by decide) rest).bind (.ite_pos rfl (reads_drop (by decide) rest))

theorem reads_closeObject (rest : List Char) : closeObject.Reads ('\x7d' :: rest) () rest :=
  (reads_peekPastBlanks (by decide) rest).bind (.ite_pos rfl (reads_drop (by decide) rest))

theorem Reads.enclosed {content : Reader α} {close : Reader Unit} {bracket : Char}
    {mid last : List Char} {a : α} (hascii : bracket.toNat < 0x80) (h : content.Reads mid a last)
    (hclose : close.Reads last () rest) :
    (Reader.enclosed content close).Reads (bracket :: mid) a rest :=
  (reads_drop hascii mid).bind <| h.attempt.bind <| hclose.attempt.bind (reads_pure a rest)

theorem reads_token {first : Char} {letters : List Char} (hfirst : first.toNat < 0x80)
    (hletters : letters.all (·.toNat < 0x80) = true) (a : α) (rest : List Char) :
    (drop *> word letters *> pure a).Reads (first :: letters ++ rest) a rest :=
  have hword := reads_word (fun c hc => by simpa using List.all_eq_true.mp hletters c hc) rest
  ((reads_drop hfirst _).seqRight hword).seqRight (reads_pure a rest)

end Reader

/-! ## Scalars -/

namespace Decoder

/-- Off the text of `value` the decoder takes `a`, with `depth` left for
containers. -/
def Takes (decoder : Decoder α) (depth : Nat) (value : Value) (a : α) : Prop :=
  ∀ rest, EndsValue rest → (decoder.read depth).Reads (value.compact ++ rest) a rest

theorem takes_text (depth : Nat) (s : String) : text.Takes depth (.text s) s := by
  intro rest _
  rw [Value.compact, quoted_append]
  exact .located <| (reads_peekValue (by decide) _).bind <| .ite_pos rfl <|
    (reads_drop (by decide) _).seqRight (reads_literal s rest)

theorem takes_boolean (depth : Nat) (b : Bool) : boolean.Takes depth (.boolean b) b := by
  intro rest _
  cases b with
  | true =>
      exact .located <| (reads_peekValue (by decide) _).bind <| .ite_pos rfl <|
        reads_token (by decide) (by decide) true rest
  | false =>
      exact .located <| (reads_peekValue (by decide) _).bind <| .ite_neg (by decide) <|
        .ite_pos rfl <| reads_token (by decide) (by decide) false rest

theorem takes_unsigned {expected : String} {limit n : Nat} (hn : n ≤ limit)
    (hlimit : limit ≤ maxSignificand) :
    (unsigned expected limit).Takes depth (.number (.natural n)) n := by
  intro rest hrest
  have hnumeral := reads_numeral (Nat.le_trans hn hlimit) hrest
  obtain ⟨c, digits, hdigits, hc⟩ := head_toString n
  obtain ⟨hascii, hdigit⟩ := isDigit_octet hc
  rw [hdigits] at hnumeral
  rw [Value.compact, Number.render, hdigits]
  have hminus : octet c ≠ octet '-' := fun h => by
    rw [octet_inj hascii (by decide) h] at hc
    exact absurd hc (by decide)
  refine .located <| (reads_peekValue (isToken_of_isDigit hc) _).bind <| .ite_neg hminus <|
    .ite_pos hdigit <| hnumeral.bind ?_
  simp only [if_pos hn]
  exact reads_pure n rest

theorem takes_null (inner : Decoder α) (depth : Nat) : (optional inner).Takes depth .null none :=
  fun rest _ => (reads_peekPastBlanks (by decide) _).bind <| .ite_pos rfl <|
    reads_token (by decide) (by decide) none rest

theorem Takes.optional {inner : Decoder α} {value : Value} {a : α} {c : Char}
    (h : inner.Takes depth value a) (hhead : value.compact.head? = some c)
    (htoken : isToken c = true) (hnull : c ≠ 'n') :
    (Decoder.optional inner).Takes depth value (some a) := by
  intro rest hrest
  have hread := h rest hrest
  obtain ⟨tail, htail⟩ : ∃ tail, value.compact = c :: tail :=
    List.head?_eq_some_iff.mp hhead
  rw [htail] at hread ⊢
  have hother : ¬(some (octet c) = some (octet 'n')) := fun h =>
    hnull (octet_inj (ascii_of_token htoken) (by decide) (Option.some.inj h))
  exact (reads_peekPastBlanks htoken _).bind <| .ite_neg hother <| hread.map some

/-! ## Records -/

end Decoder

/-- A document without those of its members that are not kept. -/
def Value.keeping (keep : String → Bool) : Value → Value
  | .object members => .object (members.filter fun member => keep member.1)
  | value => value

namespace Decoder

namespace Record

variable {record : Record σ α} {state mid last : σ} {members : List (String × Value)}

def memberText (member : String × Value) : List Char :=
  quoted member.1 ++ ':' :: member.2.compact

/-- Members behind another one, with a comma before each. -/
def moreText (members : List (String × Value)) : List Char :=
  members.flatMap fun member => ',' :: memberText member

theorem compactMembers_cons (member : String × Value) (members : List (String × Value)) :
    compactMembers (member :: members) = memberText member ++ moreText members := by
  induction members generalizing member with
  | nil => simp [compactMembers, memberText, moreText]
  | cons next members ih =>
      rw [compactMembers, ih next]
      · simp [memberText, moreText]
      · exact fun h => nomatch h

theorem endsValue_more (members : List (String × Value)) (rest : List Char) :
    EndsValue (moreText members ++ '\x7d' :: rest) := by
  intro c hc
  cases members with
  | nil => exact Option.some.inj hc ▸ by decide
  | cons member members => exact Option.some.inj hc ▸ by decide

/-- Off the text of a member, the record moves from one state to another. -/
def Moves (record : Record σ α) (depth : Nat) (state : σ) (member : String × Value) (next : σ) :
    Prop :=
  ∀ rest, EndsValue rest →
    (record.readMember depth state).Reads (memberText member ++ rest) next rest

theorem Moves.of {decoder : Decoder β} {name : String} {get : σ → Option β} {set : σ → β → σ}
    {mayLack : Bool} {value : Value} {b : β} {next : σ}
    (hfield : record.field? name = some (.of name decoder get set mayLack))
    (hnew : get state = none) (h : decoder.Takes depth value b) (hnext : set state b = next) :
    record.Moves depth state (name, value) next := by
  subst hnext
  intro rest hrest
  have hgiven : (Field.of name decoder get set mayLack).isGiven state = false := by
    simp [Field.of, hnew]
  have hread : (Field.read (.of name decoder get set mayLack) depth state).Reads
      (value.compact ++ rest) (set state b) rest :=
    (h rest hrest).bind (reads_pure _ _)
  rw [memberText, List.append_assoc]
  refine (reads_key name _).bind ?_
  rw [hfield]
  refine .ite_neg (by rw [hgiven]; exact Bool.false_ne_true) ?_
  exact (reads_colon _).bind hread

/-- The states that a record goes through, member by member. -/
inductive Course (record : Record σ α) (depth : Nat) : σ → List (String × Value) → σ → Prop
  | done {state : σ} : Course record depth state [] state
  | next {state mid last : σ} {member : String × Value} {members : List (String × Value)}
      (hmove : record.Moves depth state member mid)
      (hcourse : Course record depth mid members last) :
      Course record depth state (member :: members) last

/-- What is given by a member that is kept, or left out of the document. -/
def kept (keep : String → Bool) (name : String) (b : β) : Option β :=
  if keep name then some b else none

theorem kept_of {keep : String → Bool} {name : String} (h : keep name = true) (b : β) :
    Record.kept keep name b = some b :=
  if_pos h

theorem getD_kept (keep : String → Bool) (name : String) (b usual : β) :
    (Record.kept keep name b).getD usual = if keep name then b else usual := by
  unfold Record.kept
  split <;> rfl

theorem join_kept (keep : String → Bool) (name : String) (b : Option β) :
    (Record.kept keep name b).join = if keep name then b else none := by
  unfold Record.kept
  split <;> simp

theorem Course.kept {keep : String → Bool} {decoder : Decoder β} {name : String}
    {get : σ → Option β} {set : σ → β → σ} {mayLack : Bool} {value : Value} {b : β}
    (put : σ → Option β → σ)
    (hfield : record.field? name = some (.of name decoder get set mayLack))
    (hnew : get state = none) (hsome : set state b = put state (some b))
    (hnone : put state none = state) (h : decoder.Takes depth value b)
    (hcourse : record.Course depth (put state (Record.kept keep name b))
      (members.filter fun member => keep member.1) last) :
    record.Course depth state (((name, value) :: members).filter fun member => keep member.1)
      last := by
  rw [List.filter_cons]
  unfold Record.kept at hcourse
  split at hcourse
  case isTrue hkeep =>
    rw [if_pos hkeep]
    exact .next (.of hfield hnew h hsome) hcourse
  case isFalse hkeep =>
    rw [if_neg hkeep]
    exact hnone ▸ hcourse

theorem reads_memberTurn (first : Bool) (lead : List Char) {member : String × Value}
    (hbegins : ∀ text, (beginsMember first).Reads (lead ++ '"' :: text) true ('"' :: text))
    (hmove : record.Moves depth state member mid) (hrest : EndsValue rest) :
    (memberTurn (record.readMember depth) (first, state)).Reads (lead ++ memberText member ++ rest)
      (.again (false, mid)) rest := by
  have hmember := hmove rest hrest
  rw [memberText, List.append_assoc, quoted_append] at hmember
  rw [memberText, List.append_assoc, List.append_assoc, quoted_append]
  exact (hbegins _).bind (hmember.bind (reads_pure _ _))

theorem reads_lastTurn (first : Bool) (state : σ) (rest : List Char) :
    (memberTurn (record.readMember depth) (first, state)).Reads ('\x7d' :: rest) (.done state)
      ('\x7d' :: rest) :=
  Reads.bind
    ((reads_peekPastBlanks (by decide) rest).bind (.ite_pos rfl (reads_pure false _)))
    (reads_pure _ _)

theorem Course.loops_more (h : record.Course depth state members last) (rest : List Char) :
    Loops (memberTurn (record.readMember depth)) (false, state)
      (moreText members ++ '\x7d' :: rest) last ('\x7d' :: rest) := by
  induction h with
  | done => exact .done (reads_lastTurn _ _ rest)
  | @next _ _ _ member members hmove _ ih =>
      have hbegins (text : List Char) :
          (beginsMember false).Reads (',' :: '"' :: text) true ('"' :: text) :=
        (reads_peekPastBlanks (by decide) _).bind <| .ite_neg (by decide) <|
          .ite_neg Bool.false_ne_true <| .ite_pos rfl <| (reads_drop (by decide) _).bind <|
            (reads_peekPastBlanks (by decide) _).bind <| .ite_pos rfl (reads_pure _ _)
      have hturn := reads_memberTurn false [','] hbegins hmove (endsValue_more members rest)
      have hloop := Loops.again (List.cons_ne_nil _ _) hturn ih
      have htext : moreText (member :: members) = [','] ++ memberText member ++ moreText members :=
        List.flatMap_cons
      rw [htext, List.append_assoc]
      exact hloop

theorem Course.loops (h : record.Course depth state members last) (rest : List Char) :
    Loops (memberTurn (record.readMember depth)) (true, state)
      (compactMembers members ++ '\x7d' :: rest) last ('\x7d' :: rest) := by
  cases h with
  | done => exact .done (reads_lastTurn _ _ rest)
  | @next _ _ _ member members hmove hcourse =>
      have hbegins (text : List Char) :
          (beginsMember true).Reads ('"' :: text) true ('"' :: text) :=
        (reads_peekPastBlanks (by decide) _).bind <| .ite_neg (by decide) <| .ite_pos rfl <|
          .ite_pos rfl (reads_pure _ _)
      have hturn := reads_memberTurn true [] hbegins hmove (endsValue_more members rest)
      have hloop := Loops.again (by simp [memberText, quoted]) hturn (hcourse.loops_more rest)
      rw [compactMembers_cons, List.append_assoc]
      exact hloop

theorem Course.takes {a : α} (hcourse : record.Course (depth + 1) record.blank members last)
    (hcomplete : record.complete last = .ok a) :
    record.decoder.Takes (depth + 2) (.object members) a := by
  intro rest _
  have hrecord : (ofExcept (record.complete last)).Reads ('\x7d' :: rest) a ('\x7d' :: rest) := by
    rw [hcomplete]
    exact reads_pure a _
  rw [Value.compact, List.cons_append, List.append_assoc]
  exact .located <| (reads_peekValue (by decide) _).bind <| .ite_neg (by decide) <|
    .ite_pos rfl <| .ite_neg (by omega) <|
      .enclosed (by decide) ((hcourse.loops rest).reads.bind hrecord) (reads_closeObject rest)

end Record

/-! ## Whole documents -/

variable {decoder : Decoder α} {value : Value} {a : α}

theorem Takes.document (h : decoder.Takes depth value a) (cursor : Cursor)
    (hat : cursor.At value.compact) :
    (Reader.document (decoder.read depth) cursor).1 = .ok a := by
  have hread := h [] fun _ hc => nomatch hc
  rw [List.append_nil] at hread
  have hfinish : Reader.finish.Reads [] () [] := reads_peekPastBlanks_end.bind (reads_pure _ _)
  have hwhole : (Reader.document (decoder.read depth)).Reads value.compact a [] :=
    hread.bind (hfinish.bind (reads_pure a []))
  obtain ⟨last, hlast, -⟩ := hwhole cursor hat
  exact congrArg Prod.fst hlast

theorem Takes.ofText (h : decoder.Takes depthLimit value a) :
    decoder.ofText (String.ofList value.compact) = .ok a :=
  h.document _ ⟨congrArg Utf8.encode String.toList_ofList, rfl⟩

theorem Takes.ofStream (h : decoder.Takes depthLimit value a) :
    decoder.ofStream (Utf8.encode value.compact) = .ok a :=
  h.document _ ⟨rfl, rfl⟩

end Decoder

end OciBlobs.Json
