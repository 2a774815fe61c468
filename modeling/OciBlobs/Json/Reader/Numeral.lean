/-
# `Json.Reader.Numeral` — numbers

Digits are collected in a significand of 64 bits.  A whole number that fits
is exact; all others become doubles, with the digits that no longer fit
counted in the exponent.
-/
import OciBlobs.Json.Double
import OciBlobs.Json.Reader
import OciBlobs.Json.Value

namespace OciBlobs.Json.Reader

def maxSignificand : Nat := 0xFFFFFFFFFFFFFFFF

/-- The greatest exponent that is still counted. -/
def maxExponent : Nat := 0x7FFFFFFF

/-- Appends digits to a significand while it fits, with the number of digits
that were appended. -/
def appendDigits (significand : Nat) : Bytes → Nat × Nat
  | [] => (significand, 0)
  | b :: rest =>
    let grown := significand * 10 + (b.toNat - 0x30)
    if maxSignificand < grown then (significand, 0)
    else
      let further := appendDigits grown rest
      (further.1, further.2 + 1)

def double (positive : Bool) (significand : Nat) (exponent : Int) : Reader Number :=
  match Double.ofParts? positive significand exponent with
  | some x => pure (.double x)
  | none => failHere .numberOutOfRange

def clampExponent (exponent : Int) : Int :=
  max (-0x80000000) (min 0x7FFFFFFF exponent)

/-- One digit of an exponent; `none` stands for one beyond counting. -/
def exponentTurn (tooLarge : Bool) : Option Nat → Reader (Turn (Option Nat) (Option Nat))
  | none => do
    match ← peek with
    | some b => if isDigit b then drop *> pure (.again none) else pure (.done none)
    | none => pure (.done none)
  | some exponent => do
    match ← peek with
    | some b =>
      if isDigit b then
        drop
        let grown := exponent * 10 + (b.toNat - 0x30)
        if maxExponent < grown then
          if tooLarge then failHere .numberOutOfRange else pure (.again none)
        else pure (.again (some grown))
      else pure (.done (some exponent))
    | none => pure (.done (some exponent))

def exponentSign : Reader Bool := do
  match ← peek with
  | some b =>
    if b = octet '+' then drop *> pure true
    else if b = octet '-' then drop *> pure false
    else pure true
  | none => pure true

def exponentPart (positive : Bool) (significand : Nat) (exponent : Int) : Reader Number := do
  drop
  let up ← exponentSign
  match ← next with
  | none => failHere .endInValue
  | some b =>
    if isDigit b then
      match ← loop (exponentTurn (up && significand ≠ 0)) (some (b.toNat - 0x30)) with
      | some given =>
        double positive significand (clampExponent (if up then exponent + given else exponent - given))
      | none => pure (.double (if positive then 0.0 else -0.0))
    else failHere .invalidNumber

/-- Whether an octet begins an exponent. -/
def isExponentMark (b : Option UInt8) : Bool :=
  b == some (octet 'e') || b == some (octet 'E')

def fractionPart (positive : Bool) (significand : Nat) (exponent : Int) : Reader Number := do
  drop
  let seen ← span isDigit
  if seen.1.isEmpty then
    match seen.2 with
    | some _ => failAhead .invalidNumber
    | none => failAhead .endInValue
  else
    let grown := appendDigits significand seen.1
    let exponent := exponent - grown.2
    if isExponentMark seen.2 then exponentPart positive grown.1 exponent
    else double positive grown.1 exponent

/-- What follows the whole digits; `excess` of them did not fit. -/
def afterDigits (positive : Bool) (significand excess : Nat) (seen : Option UInt8) :
    Reader Number :=
  if seen = some (octet '.') then fractionPart positive significand excess
  else if isExponentMark seen then exponentPart positive significand excess
  else if 0 < excess then double positive significand excess
  else if positive then pure (.natural significand)
  else if significand = 0 || 0x8000000000000000 < significand then
    pure (.double (-(UInt64.ofNat significand).toFloat))
  else pure (.negative significand)

/-- A number without its sign. -/
def numeral (positive : Bool) : Reader Number := do
  match ← next with
  | none => failHere .endInValue
  | some b =>
    if b = octet '0' then
      let seen ← peek
      if seen.any isDigit then failAhead .invalidNumber
      else afterDigits positive 0 0 seen
    else if isDigit b then
      let seen ← span isDigit
      let grown := appendDigits (b.toNat - 0x30) seen.1
      afterDigits positive grown.1 (seen.1.length - grown.2) seen.2
    else failHere .invalidNumber

def skipExponent : Reader Unit := do
  drop
  let _ ← exponentSign
  match ← next with
  | some b =>
    if isDigit b then
      let _ ← span isDigit
      pure ()
    else failHere .invalidNumber
  | none => failHere .invalidNumber

def skipFraction : Reader Unit := do
  drop
  let seen ← span isDigit
  if seen.1.isEmpty then failAhead .invalidNumber
  else if isExponentMark seen.2 then skipExponent
  else pure ()

def skipNumeral : Reader Unit := do
  let tail (seen : Option UInt8) : Reader Unit :=
    if seen = some (octet '.') then skipFraction
    else if isExponentMark seen then skipExponent
    else pure ()
  match ← next with
  | none => failHere .invalidNumber
  | some b =>
    if b = octet '0' then
      let seen ← peek
      if seen.any isDigit then failAhead .invalidNumber else tail seen
    else if isDigit b then
      let seen ← span isDigit
      tail seen.2
    else failHere .invalidNumber

end OciBlobs.Json.Reader
