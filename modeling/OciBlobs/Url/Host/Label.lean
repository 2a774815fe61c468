/-
# `Url.Host.Label` — international labels in ASCII

A label with characters beyond ASCII is written `xn--` with what is left of
it in ASCII and, behind the last hyphen, its other characters in ascending
order.  Each of these is a number that says how far to go from the place of
the last one: around the text that is there so far, one code point higher
after each round.  Digits are the letters and then the decimal digits; a
digit below a threshold, which moves with the sizes seen so far, ends its
number.

`decode?` is a fold over the digits, so that it is structural in the label.
`encode` goes the other way.  The number that is read last is the one of the last
of the greatest characters, so what comes before it is written for the text
without this character.

A label is sound if it has only characters that labels hold and those in their
composed form, no mark in front, which would change the label before it, and
joiners only where they fit.  `read?` asks this of a label as it is written, and of
the one that an `xn--` stands for.  Both ways are slow for long labels and have
their limits: what is decoded has no more than 2000 digits, and a label beyond
ASCII no more than 1000 characters.  A label within the second limit may take more
digits than the first one has room for.
-/
import OciBlobs.Url.Host.Composed
import OciBlobs.Url.Host.Joiner

namespace OciBlobs.Url.Label

/-- The most digits that are decoded, the ASCII in front of them included. -/
def digitLimit : Nat := 2000

/-- The most characters of a label beyond ASCII. -/
def characterLimit : Nat := 1000

def digit? (c : Char) : Option Nat :=
  if c.isLower then some (c.toNat - 0x61)
  else if c.isDigit then some (c.toNat - 0x30 + 26)
  else none

def digitOf (value : Nat) : Char :=
  if value < 26 then Char.ofNat (0x61 + value) else Char.ofNat (0x30 + (value - 26))

/-- The least digit that does not end a number. -/
def threshold (bias position : Nat) : Nat :=
  max 1 (min 26 (position - bias))

/-- Scales a distance down, and counts digits. -/
def scale (distance : Nat) : Nat × Nat :=
  if 455 < distance then
    let scaled := scale (distance / 35)
    (scaled.1, scaled.2 + 36)
  else (distance, 0)
termination_by distance
decreasing_by omega

/-- The bias after a distance was gone, in a text that now has `count`
characters; the first distance of a label counts for little. -/
def biasAfter (distance count : Nat) (isFirst : Bool) : Nat :=
  let damped := if isFirst then distance / 700 else distance / 2
  let scaled := scale (damped + damped / count)
  scaled.2 + 36 * scaled.1 / (scaled.1 + 38)

structure Draft where
  /-- The characters so far. -/
  text : List Char
  /-- The code point that is due. -/
  code : Nat := 0x80
  /-- The place behind the last character that was put in. -/
  start : Nat := 0
  /-- Where the number that is being read has led so far. -/
  goal : Nat := 0
  /-- The weight of the next digit. -/
  weight : Nat := 1
  /-- The position of the next digit, counted in 36s from 36. -/
  position : Nat := 36
  bias : Nat := 72
deriving DecidableEq, Repr

namespace Draft

/-- The draft with a character put in at the goal, if there is one of that
code point. -/
def insert? (draft : Draft) : Option Draft :=
  let count := draft.text.length + 1
  let code := draft.code + draft.goal / count
  let place := draft.goal % count
  if code.isValidChar then
    some
      { text := draft.text.take place ++ Char.ofNat code :: draft.text.drop place
        code := code
        start := place + 1
        goal := place + 1
        bias := biasAfter (draft.goal - draft.start) count (draft.start == 0) }
  else none

/-- The draft after one more digit. -/
def feed? (draft : Draft) (digit : Nat) : Option Draft :=
  let limit := threshold draft.bias draft.position
  let further := { draft with goal := draft.goal + digit * draft.weight }
  if digit < limit then further.insert?
  else
    some
      { further with
        weight := draft.weight * (36 - limit)
        position := draft.position + 36 }

def feedAll? : Draft → List Char → Option Draft
  | draft, [] => some draft
  | draft, c :: rest => do
    let next ← draft.feed? (← digit? c)
    feedAll? next rest

/-- The text of a draft in which no number is unfinished. -/
def finish? (draft : Draft) : Option (List Char) :=
  if draft.position = 36 then some draft.text else none

end Draft

/-- The characters of a label that is written without its `xn--`. -/
def decode? (text : List Char) : Option (List Char) := do
  let digits := (text.reverse.takeWhile (· != '-')).reverse
  let front := text.take (text.length - digits.length)
  if front = ['-'] then none
  else (← Draft.feedAll? { text := front.dropLast } digits).finish?

def number (bias position value : Nat) : List Char :=
  let limit := threshold bias position
  if value < limit then [digitOf value]
  else
    digitOf (limit + (value - limit) % (36 - limit))
      :: number bias (position + 36) ((value - limit) / (36 - limit))
termination_by value
decreasing_by
  have hlimit : 1 ≤ threshold bias position := Nat.le_max_left ..
  exact Nat.lt_of_le_of_lt (Nat.div_le_self ..) (by omega)

/-- The last of the greatest characters beyond ASCII, with what is before and behind
it. -/
def cutGreatest? : List Char → Option (List Char × Char × List Char)
  | [] => none
  | c :: rest =>
    match cutGreatest? rest with
    | some (front, greatest, back) =>
      if greatest.toNat < c.toNat then some ([], c, rest) else some (c :: front, greatest, back)
    | none => if c.toNat < 0x80 then none else some ([], c, rest)

theorem eq_of_cutGreatest {text front back : List Char} {c : Char}
    (h : cutGreatest? text = some (front, c, back)) : text = front ++ c :: back := by
  induction text generalizing front with
  | nil => cases h
  | cons first rest ih =>
      unfold cutGreatest? at h
      split at h
      · split at h
        · cases h
          rfl
        case isFalse hrest _ =>
          cases h
          rw [ih hrest]
          rfl
      · split at h
        · cases h
        · cases h
          rfl

/-- The digits of a text's characters beyond ASCII, and the draft of someone who has
read them. -/
def write (text : List Char) : List Char × Draft :=
  match _h : cutGreatest? text with
  | none => ([], { text })
  | some (front, c, back) =>
    let written := write (front ++ back)
    let draft := written.2
    let goal := (c.toNat - draft.code) * text.length + front.length
    let distance := goal - draft.start
    (written.1 ++ number draft.bias 36 distance,
      { text
        code := c.toNat
        start := front.length + 1
        goal := front.length + 1
        bias := biasAfter distance text.length (draft.start == 0) })
termination_by text.length
decreasing_by
  rw [eq_of_cutGreatest _h, List.length_append, List.length_append, List.length_cons]
  omega

/-- A label beyond ASCII as it is written behind `xn--`. -/
def encode (text : List Char) : List Char :=
  let front := text.filter (·.toNat < 0x80)
  if front.isEmpty then (write text).1 else front ++ '-' :: (write text).1

/-- What follows the `xn--` of a label in lower case. -/
def encoded? : List Char → Option (List Char)
  | 'x' :: 'n' :: '-' :: '-' :: text => some text
  | _ => none

/-- Whether a text can be a label. -/
def isSound (text : List Char) : Bool :=
  if isAscii text then text.all Letter.isLetter
  else
    text.all (fun c => Letter.isLetter c || Joiner.isJoiner c)
      && !text.head?.any Mark.isMark
      && Composed.compose text == text
      && Joiner.areFitting [] text
      && text.length ≤ characterLimit

/-- The characters that a label stands for, if it can be part of a domain. -/
def read? (label : List Char) : Option (List Char) :=
  if isSound label then
    match encoded? label with
    | none => some label
    | some text =>
      if !isAscii text || digitLimit < text.length then none
      else (decode? text).filter fun label => !isAscii label && isSound label
  else none

/-- A label as it is written in ASCII. -/
def written (label : List Char) : List Char :=
  if isAscii label then label else ['x', 'n', '-', '-'] ++ encode label

end OciBlobs.Url.Label
