/-
# TokenFlow.Digest.Checksum -- the sums behind compressed octets

A checksum is a number of thirty-two bits that follows what it sums up.  CRC-32
is the remainder of a division of polynomials over two elements, and Adler-32 a
pair of sums modulo the largest prime below 2 ^ 16.
-/

namespace TokenFlow.Digest.Checksum

set_option autoImplicit false

/-! ## CRC-32 -/

/-- One step of the division; the lowest bit belongs to the highest power. -/
def crcStep (remainder : UInt32) : UInt32 :=
  if remainder &&& 1 = 1 then (remainder >>> 1) ^^^ 0xEDB88320 else remainder >>> 1

def crcOctet (remainder : UInt32) (octet : UInt8) : UInt32 :=
  (List.range 8).foldl (fun remainder _ => crcStep remainder) (remainder ^^^ octet.toUInt32)

def crc (octets : List UInt8) : Nat :=
  (octets.foldl crcOctet 0xFFFFFFFF ^^^ 0xFFFFFFFF).toNat

/-! ## Adler-32 -/

def adlerModulus : Nat := 65521

/-- The sum of the octets after one, and the sum of these sums above it. -/
def adler (octets : List UInt8) : Nat :=
  let (low, high) := octets.foldl (fun (low, high) octet =>
    let low := (low + octet.toNat) % adlerModulus
    (low, (high + low) % adlerModulus)) (1, 0)
  high * Nat.pow 2 16 + low

end TokenFlow.Digest.Checksum
