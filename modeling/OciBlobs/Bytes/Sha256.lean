/-
# `Bytes.Sha256` — the hash, over a whole message and over a stream of it

`Sha256.hash` is the definition: pad the message, cut it into blocks of 64
octets, compress them in order.  `Sha256.Hasher` is the working form for
content that arrives in reads: it keeps the chaining value, the octets of an
unfinished block and the count, and pads only at the end.
-/
import OciBlobs.Bytes

namespace OciBlobs

namespace Sha256

structure Chain where
  a : UInt32
  b : UInt32
  c : UInt32
  d : UInt32
  e : UInt32
  f : UInt32
  g : UInt32
  h : UInt32
deriving DecidableEq, Repr

def Chain.initial : Chain :=
  ⟨0x6a09e667, 0xbb67ae85, 0x3c6ef372, 0xa54ff53a, 0x510e527f, 0x9b05688c, 0x1f83d9ab, 0x5be0cd19⟩

def roundConstants : List UInt32 := [
  0x428a2f98, 0x71374491, 0xb5c0fbcf, 0xe9b5dba5, 0x3956c25b, 0x59f111f1, 0x923f82a4, 0xab1c5ed5,
  0xd807aa98, 0x12835b01, 0x243185be, 0x550c7dc3, 0x72be5d74, 0x80deb1fe, 0x9bdc06a7, 0xc19bf174,
  0xe49b69c1, 0xefbe4786, 0x0fc19dc6, 0x240ca1cc, 0x2de92c6f, 0x4a7484aa, 0x5cb0a9dc, 0x76f988da,
  0x983e5152, 0xa831c66d, 0xb00327c8, 0xbf597fc7, 0xc6e00bf3, 0xd5a79147, 0x06ca6351, 0x14292967,
  0x27b70a85, 0x2e1b2138, 0x4d2c6dfc, 0x53380d13, 0x650a7354, 0x766a0abb, 0x81c2c92e, 0x92722c85,
  0xa2bfe8a1, 0xa81a664b, 0xc24b8b70, 0xc76c51a3, 0xd192e819, 0xd6990624, 0xf40e3585, 0x106aa070,
  0x19a4c116, 0x1e376c08, 0x2748774c, 0x34b0bcb5, 0x391c0cb3, 0x4ed8aa4a, 0x5b9cca4f, 0x682e6ff3,
  0x748f82ee, 0x78a5636f, 0x84c87814, 0x8cc70208, 0x90befffa, 0xa4506ceb, 0xbef9a3f7, 0xc67178f2]

/-- Rotation to the right; `n` is between 1 and 31. -/
def rotateRight (x : UInt32) (n : UInt32) : UInt32 :=
  (x >>> n) ||| (x <<< (32 - n))

/-- Big-endian words of a block. -/
def words : Bytes → List UInt32
  | a :: b :: c :: d :: rest =>
    ((a.toUInt32 <<< 24) ||| (b.toUInt32 <<< 16) ||| (c.toUInt32 <<< 8) ||| d.toUInt32) :: words rest
  | _ => []

/-- The message schedule word that follows the sixteen of `window`. -/
def nextWord (window : List UInt32) : UInt32 :=
  let word (i : Nat) : UInt32 := window.getD i 0
  let w1 := word 1
  let w14 := word 14
  let low := rotateRight w1 7 ^^^ rotateRight w1 18 ^^^ (w1 >>> 3)
  let high := rotateRight w14 17 ^^^ rotateRight w14 19 ^^^ (w14 >>> 10)
  word 0 + low + word 9 + high

def round (v : Chain) (constant word : UInt32) : Chain :=
  let s1 := rotateRight v.e 6 ^^^ rotateRight v.e 11 ^^^ rotateRight v.e 25
  let choice := (v.e &&& v.f) ^^^ ((~~~ v.e) &&& v.g)
  let t1 := v.h + s1 + choice + constant + word
  let s0 := rotateRight v.a 2 ^^^ rotateRight v.a 13 ^^^ rotateRight v.a 22
  let majority := (v.a &&& v.b) ^^^ (v.a &&& v.c) ^^^ (v.b &&& v.c)
  ⟨t1 + s0 + majority, v.a, v.b, v.c, v.d + t1, v.e, v.f, v.g⟩

/-- All rounds; `window` holds the next sixteen schedule words. -/
def rounds : List UInt32 → List UInt32 → Chain → Chain
  | constant :: constants, word :: window, v =>
    rounds constants (window ++ [nextWord (word :: window)]) (round v constant word)
  | _, _, v => v

def compress (v : Chain) (block : Bytes) : Chain :=
  let w := rounds roundConstants (words block) v
  ⟨v.a + w.a, v.b + w.b, v.c + w.c, v.d + w.d, v.e + w.e, v.f + w.f, v.g + w.g, v.h + w.h⟩

def hasBlock (bytes : Bytes) : Bool :=
  !(bytes.drop 63).isEmpty

theorem hasBlock_iff (bytes : Bytes) : hasBlock bytes = true ↔ 64 ≤ bytes.length := by
  simp only [hasBlock, Bool.not_eq_true', List.isEmpty_eq_false_iff, ne_eq, List.drop_eq_nil_iff]
  omega

/-- Compresses all whole blocks of `bytes` and keeps what is left over. -/
def absorb (v : Chain) (bytes : Bytes) : Chain × Bytes :=
  if hasBlock bytes then absorb (compress v (bytes.take 64)) (bytes.drop 64) else (v, bytes)
termination_by bytes.length
decreasing_by
  rename_i h
  have := (hasBlock_iff bytes).1 h
  simp only [List.length_drop]
  omega

/-- The eight octets of a message length in bits. -/
def lengthField (count : Nat) : Bytes :=
  (List.range 8).map fun i => UInt8.ofNat (8 * count / Nat.pow 256 (7 - i))

/-- What follows the last octets of a message of `count` octets: a set bit,
zeros up to eight octets before a block's end, and the length. -/
def padding (count : Nat) : Bytes :=
  0x80 :: (List.replicate ((119 - count % 64) % 64) 0 ++ lengthField count)

def wordBytes (w : UInt32) : Bytes :=
  [(w >>> 24).toUInt8, (w >>> 16).toUInt8, (w >>> 8).toUInt8, w.toUInt8]

def Chain.toBytes (v : Chain) : Bytes :=
  [v.a, v.b, v.c, v.d, v.e, v.f, v.g, v.h].flatMap wordBytes

def hash (message : Bytes) : Chain :=
  (absorb Chain.initial (message ++ padding message.length)).1

/-- A hash under way: the blocks so far, an unfinished block, the count. -/
structure Hasher where
  chain : Chain := Chain.initial
  tail : Bytes := []
  count : Nat := 0

/-- Takes the next octets of the message. -/
def Hasher.update (hasher : Hasher) (bytes : Bytes) : Hasher :=
  let absorbed := absorb hasher.chain (hasher.tail ++ bytes)
  ⟨absorbed.1, absorbed.2, hasher.count + bytes.length⟩

def Hasher.finish (hasher : Hasher) : Chain :=
  (absorb hasher.chain (hasher.tail ++ padding hasher.count)).1

end Sha256

end OciBlobs
