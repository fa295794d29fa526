/-
# TokenFlow.Digest.Sha256 -- the digest behind the proof key

SHA-256 over octets: the message is padded to whole blocks of sixteen words,
each block is expanded to sixty-four words and mixed into eight registers, and
the registers are the digest.  A digest is thirty-two octets whatever the
message (`length_digest`).
-/

namespace TokenFlow.Digest.Sha256

set_option autoImplicit false

/-! ## Words -/

def rotateRight (x : UInt32) (n : UInt32) : UInt32 :=
  (x >>> n) ||| (x <<< (32 - n))

/-- Four octets as a word, the first one highest. -/
def word (a b c d : UInt8) : UInt32 :=
  (a.toUInt32 <<< 24) ||| (b.toUInt32 <<< 16) ||| (c.toUInt32 <<< 8) ||| d.toUInt32

def wordOctets (x : UInt32) : List UInt8 :=
  [(x >>> 24).toUInt8, (x >>> 16).toUInt8, (x >>> 8).toUInt8, x.toUInt8]

/-- The octets in groups of four; an incomplete group is dropped, and padded
messages have none. -/
def words : List UInt8 → List UInt32
  | a :: b :: c :: d :: rest => word a b c d :: words rest
  | _ => []

/-! ## Padding -/

/-- The message, a one bit, zeros up to eight octets before a block's end, and
the length in bits. -/
def pad (message : List UInt8) : List UInt8 :=
  let length := UInt64.ofNat (8 * message.length)
  let zeros := (119 - message.length % 64) % 64
  message ++ [(0x80 : UInt8)] ++ List.replicate zeros (0 : UInt8)
    ++ wordOctets (length >>> 32).toUInt32 ++ wordOctets length.toUInt32

/-! ## Blocks -/

/-- The round constants: the fractional cube roots of the first 64 primes. -/
def roundConstants : List UInt32 := [
  0x428a2f98, 0x71374491, 0xb5c0fbcf, 0xe9b5dba5, 0x3956c25b, 0x59f111f1, 0x923f82a4, 0xab1c5ed5,
  0xd807aa98, 0x12835b01, 0x243185be, 0x550c7dc3, 0x72be5d74, 0x80deb1fe, 0x9bdc06a7, 0xc19bf174,
  0xe49b69c1, 0xefbe4786, 0x0fc19dc6, 0x240ca1cc, 0x2de92c6f, 0x4a7484aa, 0x5cb0a9dc, 0x76f988da,
  0x983e5152, 0xa831c66d, 0xb00327c8, 0xbf597fc7, 0xc6e00bf3, 0xd5a79147, 0x06ca6351, 0x14292967,
  0x27b70a85, 0x2e1b2138, 0x4d2c6dfc, 0x53380d13, 0x650a7354, 0x766a0abb, 0x81c2c92e, 0x92722c85,
  0xa2bfe8a1, 0xa81a664b, 0xc24b8b70, 0xc76c51a3, 0xd192e819, 0xd6990624, 0xf40e3585, 0x106aa070,
  0x19a4c116, 0x1e376c08, 0x2748774c, 0x34b0bcb5, 0x391c0cb3, 0x4ed8aa4a, 0x5b9cca4f, 0x682e6ff3,
  0x748f82ee, 0x78a5636f, 0x84c87814, 0x8cc70208, 0x90befffa, 0xa4506ceb, 0xbef9a3f7, 0xc67178f2]

/-- The eight registers. -/
structure Registers where
  a : UInt32
  b : UInt32
  c : UInt32
  d : UInt32
  e : UInt32
  f : UInt32
  g : UInt32
  h : UInt32

namespace Registers

/-- The fractional square roots of the first eight primes. -/
def initial : Registers :=
  ⟨0x6a09e667, 0xbb67ae85, 0x3c6ef372, 0xa54ff53a, 0x510e527f, 0x9b05688c, 0x1f83d9ab, 0x5be0cd19⟩

/-- One round with its constant and its word of the block. -/
def round (r : Registers) (constant scheduled : UInt32) : Registers :=
  let mixE := rotateRight r.e 6 ^^^ rotateRight r.e 11 ^^^ rotateRight r.e 25
  let choice := (r.e &&& r.f) ^^^ ((~~~ r.e) &&& r.g)
  let first := r.h + mixE + choice + constant + scheduled
  let mixA := rotateRight r.a 2 ^^^ rotateRight r.a 13 ^^^ rotateRight r.a 22
  let majority := (r.a &&& r.b) ^^^ (r.a &&& r.c) ^^^ (r.b &&& r.c)
  ⟨first + mixA + majority, r.a, r.b, r.c, r.d + first, r.e, r.f, r.g⟩

def add (r s : Registers) : Registers :=
  ⟨r.a + s.a, r.b + s.b, r.c + s.c, r.d + s.d, r.e + s.e, r.f + s.f, r.g + s.g, r.h + s.h⟩

def octets (r : Registers) : List UInt8 :=
  wordOctets r.a ++ wordOctets r.b ++ wordOctets r.c ++ wordOctets r.d
    ++ wordOctets r.e ++ wordOctets r.f ++ wordOctets r.g ++ wordOctets r.h

end Registers

/-- Extends a schedule, newest word first, by the given number of words. -/
def extend (newestFirst : List UInt32) : Nat → List UInt32
  | 0 => newestFirst
  | count + 1 =>
      let back (n : Nat) : UInt32 := newestFirst.getD (n - 1) 0
      let mix2 := rotateRight (back 2) 17 ^^^ rotateRight (back 2) 19 ^^^ (back 2 >>> 10)
      let mix15 := rotateRight (back 15) 7 ^^^ rotateRight (back 15) 18 ^^^ (back 15 >>> 3)
      extend ((mix2 + back 7 + mix15 + back 16) :: newestFirst) count

/-- The sixty-four words of a block of sixteen. -/
def schedule (block : List UInt32) : List UInt32 :=
  (extend block.reverse 48).reverse

def mixBlock (registers : Registers) (block : List UInt32) : Registers :=
  registers.add
    ((roundConstants.zip (schedule block)).foldl (fun r (k, w) => r.round k w) registers)

/-- All whole blocks of sixteen words. -/
def mixBlocks (registers : Registers) (message : List UInt32) : Registers :=
  if _h : 16 ≤ message.length then
    mixBlocks (mixBlock registers (message.take 16)) (message.drop 16)
  else registers
termination_by message.length
decreasing_by
  simp only [List.length_drop]
  omega

/-! ## Digest -/

def digest (message : List UInt8) : List UInt8 :=
  (mixBlocks .initial (words (pad message))).octets

theorem length_digest (message : List UInt8) : (digest message).length = 32 := by
  simp [digest, Registers.octets, wordOctets]

end TokenFlow.Digest.Sha256
