/-
# `Bytes.Utf8` — UTF-8, read strictly or with replacements

One step function, `Utf8.step`, takes the first character off a nonempty
octet sequence or finds that none starts there.  The strict reader refuses
a sequence in which some step finds no character; the lenient reader puts
U+FFFD for each maximal ill-formed prefix and goes on behind it.  Both are
the same recursion over the same step, so they agree wherever the strict
reader answers.
-/
import OciBlobs.Bytes

namespace OciBlobs

namespace Utf8

def encodeChar (c : Char) : Bytes :=
  let n := c.toNat
  if n < 0x80 then [UInt8.ofNat n]
  else if n < 0x800 then
    [UInt8.ofNat (0xC0 + n / 0x40), UInt8.ofNat (0x80 + n % 0x40)]
  else if n < 0x10000 then
    [UInt8.ofNat (0xE0 + n / 0x1000), UInt8.ofNat (0x80 + n / 0x40 % 0x40),
      UInt8.ofNat (0x80 + n % 0x40)]
  else
    [UInt8.ofNat (0xF0 + n / 0x40000), UInt8.ofNat (0x80 + n / 0x1000 % 0x40),
      UInt8.ofNat (0x80 + n / 0x40 % 0x40), UInt8.ofNat (0x80 + n % 0x40)]

def encode (text : List Char) : Bytes :=
  text.flatMap encodeChar

def ofString (text : String) : Bytes :=
  encode text.toList

/-- Whether an octet continues a longer form. -/
def isTail (b : UInt8) : Bool :=
  0x80 ≤ b && b < 0xC0

/-- Whether `second` may follow the lead octet of a three-octet form: no
overlong form below U+0800 and no surrogate. -/
def isSecondOfThree (lead second : UInt8) : Bool :=
  isTail second && !(lead == 0xE0 && second < 0xA0) && !(lead == 0xED && second ≥ 0xA0)

/-- Whether `second` may follow the lead octet of a four-octet form: no
overlong form below U+10000 and nothing above U+10FFFF. -/
def isSecondOfFour (lead second : UInt8) : Bool :=
  isTail second && !(lead == 0xF0 && second < 0x90) && !(lead == 0xF4 && second ≥ 0x90)

def tailBits (b : UInt8) : Nat :=
  b.toNat - 0x80

/-- The first character of `lead :: rest` with what follows it, or `none`
with what follows the longest prefix that could have begun a character. -/
def step (lead : UInt8) (rest : Bytes) : Option Char × Bytes :=
  if lead < 0x80 then (some (Char.ofNat lead.toNat), rest)
  else if lead < 0xC2 then (none, rest)
  else if lead < 0xE0 then
    match rest with
    | [] => (none, [])
    | b :: rest₁ =>
      if isTail b then (some (Char.ofNat ((lead.toNat - 0xC0) * 0x40 + tailBits b)), rest₁)
      else (none, rest)
  else if lead < 0xF0 then
    match rest with
    | [] => (none, [])
    | b :: rest₁ =>
      if isSecondOfThree lead b then
        match rest₁ with
        | [] => (none, [])
        | c :: rest₂ =>
          if isTail c then
            (some (Char.ofNat ((lead.toNat - 0xE0) * 0x1000 + tailBits b * 0x40 + tailBits c)), rest₂)
          else (none, rest₁)
      else (none, rest)
  else if lead < 0xF5 then
    match rest with
    | [] => (none, [])
    | b :: rest₁ =>
      if isSecondOfFour lead b then
        match rest₁ with
        | [] => (none, [])
        | c :: rest₂ =>
          if isTail c then
            match rest₂ with
            | [] => (none, [])
            | d :: rest₃ =>
              if isTail d then
                (some (Char.ofNat ((lead.toNat - 0xF0) * 0x40000 + tailBits b * 0x1000
                  + tailBits c * 0x40 + tailBits d)), rest₃)
              else (none, rest₂)
          else (none, rest₁)
      else (none, rest)
  else (none, rest)

theorem step_length_le (lead : UInt8) (rest : Bytes) :
    (step lead rest).2.length ≤ rest.length := by
  unfold step
  repeat' split
  all_goals simp_all
  all_goals omega

/-- The text of an octet sequence, if it is well formed throughout. -/
def decode? : Bytes → Option (List Char)
  | [] => some []
  | b :: rest =>
    match (step b rest).1 with
    | some c => (decode? (step b rest).2).map (c :: ·)
    | none => none
termination_by bytes => bytes.length
decreasing_by
  have := step_length_le b rest
  simp only [List.length_cons]
  omega

/-- The text of an octet sequence, with U+FFFD for each ill-formed stretch. -/
def decodeLossy : Bytes → List Char
  | [] => []
  | b :: rest => (step b rest).1.getD (Char.ofNat 0xFFFD) :: decodeLossy (step b rest).2
termination_by bytes => bytes.length
decreasing_by
  have := step_length_le b rest
  simp only [List.length_cons]
  omega

/-- How many octets stand before the first ill-formed stretch, if there is
one. -/
def flaw? : Bytes → Option Nat
  | [] => none
  | b :: rest =>
    match (step b rest).1 with
    | some c => (flaw? (step b rest).2).map ((encodeChar c).length + ·)
    | none => some 0
termination_by bytes => bytes.length
decreasing_by
  have := step_length_le b rest
  simp only [List.length_cons]
  omega

def toString? (bytes : Bytes) : Option String :=
  (decode? bytes).map String.ofList

end Utf8

end OciBlobs
