/-
# `Digest` — the content identifiers that address blobs

A digest is `algorithm:encoded`.  The client takes it as an opaque name: it
checks the two character sets and never compares a digest with content.
The grammar is part of the type, so that every digest, however it was
obtained, can be put into a URL path as one segment.
-/
import OciBlobs.Bytes.Sha256
import OciBlobs.Failure

namespace OciBlobs

def Digest.isAlgorithmChar (c : Char) : Bool :=
  c.isLower || c.isDigit || c == '+' || c == '.' || c == '_' || c == '-'

def Digest.isEncodedChar (c : Char) : Bool :=
  c.isAlphanum || c == '=' || c == '_' || c == '-'

/-- An algorithm name and an encoded hash, both nonempty and of their
characters. -/
structure Digest where
  algorithm : List Char
  encoded : List Char
  algorithm_ne : algorithm ≠ []
  algorithm_valid : algorithm.all Digest.isAlgorithmChar = true
  encoded_ne : encoded ≠ []
  encoded_valid : encoded.all Digest.isEncodedChar = true
deriving DecidableEq

namespace Digest

inductive Defect
  | noAlgorithmPrefix
  | emptyAlgorithm
  | algorithmCharacters
  | emptyEncoded
  | encodedCharacters
deriving DecidableEq, Repr

def Defect.message : Defect → String
  | .noAlgorithmPrefix => "missing algorithm prefix"
  | .emptyAlgorithm => "empty algorithm"
  | .algorithmCharacters => "algorithm contains invalid characters"
  | .emptyEncoded => "empty encoded part"
  | .encodedCharacters => "encoded part contains invalid characters"

/-- The characters of a digest: both parts around a colon. -/
def chars (digest : Digest) : List Char :=
  digest.algorithm ++ ':' :: digest.encoded

def text (digest : Digest) : String :=
  String.ofList digest.chars

/-- At most the first twelve characters of the encoded hash. -/
def short (digest : Digest) : String :=
  String.ofList (digest.encoded.take 12)

/-- Cuts at the first colon and checks both parts, left to right. -/
def ofChars (text : List Char) : Except Defect Digest :=
  let algorithm := text.takeWhile (· != ':')
  match text.dropWhile (· != ':') with
  | [] => .error .noAlgorithmPrefix
  | _ :: encoded =>
    if ha : algorithm = [] then .error .emptyAlgorithm
    else if hav : algorithm.all isAlgorithmChar = true then
      if he : encoded = [] then .error .emptyEncoded
      else if hev : encoded.all isEncodedChar = true then
        .ok ⟨algorithm, encoded, ha, hav, he, hev⟩
      else .error .encodedCharacters
    else .error .algorithmCharacters

def parse (text : String) : Except Failure Digest :=
  match ofChars text.toList with
  | .ok digest => .ok digest
  | .error defect => .error (.invalidDigest text defect.message)

theorem hexDigit_isEncodedChar : ∀ n < 16, isEncodedChar (Bytes.hexDigit n) = true := by
  decide

theorem toHex_isEncodedChar (bytes : Bytes) : (Bytes.toHex bytes).all isEncodedChar = true := by
  induction bytes with
  | nil => rfl
  | cons b rest ih =>
    have high : b.toNat / 16 < 16 := by have := b.toNat_lt; omega
    have low : b.toNat % 16 < 16 := Nat.mod_lt _ (by decide)
    simp only [Bytes.toHex, List.flatMap_cons, List.all_append, List.all_cons, List.all_nil,
      hexDigit_isEncodedChar _ high, hexDigit_isEncodedChar _ low, Bool.and_true, Bool.true_and]
    exact ih

theorem toHex_ne_nil {bytes : Bytes} (h : bytes ≠ []) : Bytes.toHex bytes ≠ [] := by
  cases bytes with
  | nil => exact absurd rfl h
  | cons b rest => simp [Bytes.toHex]

theorem chainBytes_ne_nil (v : Sha256.Chain) : v.toBytes ≠ [] := by
  simp [Sha256.Chain.toBytes, Sha256.wordBytes]

def ofHash (v : Sha256.Chain) : Digest where
  algorithm := ['s', 'h', 'a', '2', '5', '6']
  encoded := Bytes.toHex v.toBytes
  algorithm_ne := by simp
  algorithm_valid := by decide
  encoded_ne := toHex_ne_nil (chainBytes_ne_nil v)
  encoded_valid := toHex_isEncodedChar _

def sha256 (content : Bytes) : Digest :=
  ofHash (Sha256.hash content)

/-- Hashes reads one by one; an empty one is the end, a failed one a failure. -/
def hashReads : Sha256.Hasher → List (Except IoError Bytes) → Except IoError Sha256.Hasher
  | hasher, [] => .ok hasher
  | hasher, .ok [] :: _ => .ok hasher
  | hasher, .ok (b :: bytes) :: rest => hashReads (hasher.update (b :: bytes)) rest
  | _, .error error :: _ => .error error

/-- The `sha256` digest of content that arrives in reads. -/
def ofReads (reads : List (Except IoError Bytes)) : Except IoError Digest := do
  let hasher ← hashReads {} reads
  .ok (ofHash hasher.finish)

end Digest

end OciBlobs
