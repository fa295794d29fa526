/-
# TokenFlow.Compressed.Coding -- the codings of a message body

A body may be coded as a `gzip` member or as `deflate` octets, which are blocks in
a frame or by themselves.  Members and frames end in a checksum of what they hold,
and what comes after the end is not looked at.
-/
import TokenFlow.Compressed.Block
import TokenFlow.Digest.Checksum

namespace TokenFlow.Compressed

set_option autoImplicit false

open TokenFlow.Digest

/-! ## Frames -/

/-- The number of four octets that were read lowest one first and come highest one
first. -/
def ofBigEndian (n : Nat) : Nat :=
  (List.range 4).foldl (fun value place => 256 * value + n / Nat.pow 256 place % 256) 0

/-- The blocks of a frame with a check of two octets at its start. -/
def framed : Reading Unit := do
  let start ← Reading.number 16
  if (start % 256 * 256 + start / 256) % 31 ≠ 0 then Reading.flawed .headerCheck
  else if start % 16 ≠ 8 then Reading.flawed .method
  else if 7 < start / 16 % 16 then Reading.flawed .window
  else if start.testBit 13 then do
    let _ ← Reading.number 32
    Reading.flawed .dictionary
  else do
    Block.all
    Reading.align
    let sum ← Reading.number 32
    if ofBigEndian sum ≠ Checksum.adler (← get).output.reverse then Reading.flawed .dataSum

/-- Octets up to a zero, of which there are no more than `fuel`. -/
def throughZero : Nat → Reading Unit
  | 0 => Reading.ended
  | fuel + 1 => do
      if (← Reading.number 8) ≠ 0 then throughZero fuel

/-- The start of a member: what it may tell about itself is skipped. -/
def memberStart (octets : List UInt8) : Reading Unit := do
  if (← Reading.number 16) ≠ 0x8B1F then Reading.flawed .headerCheck
  let flags ← Reading.number 16
  if flags % 256 ≠ 8 then Reading.flawed .method
  if flags / Nat.pow 2 13 ≠ 0 then Reading.flawed .headerFlags
  let _ ← Reading.number 32
  let _ ← Reading.number 16
  if flags.testBit 10 then
    for _ in List.range (← Reading.number 16) do
      let _ ← Reading.number 8
  if flags.testBit 11 then throughZero (octets.length + 1)
  if flags.testBit 12 then throughZero (octets.length + 1)
  if flags.testBit 9 then
    let before := octets.take ((← get).position / 8)
    if (← Reading.number 16) ≠ Checksum.crc before % Nat.pow 2 16 then Reading.flawed .headerSum

/-- A member: its start, blocks, and the checksum and the length of what they hold. -/
def member (octets : List UInt8) : Reading Unit := do
  memberStart octets
  Block.all
  Reading.align
  let output := (← get).output.reverse
  if (← Reading.number 32) ≠ Checksum.crc output then Reading.flawed .dataSum
  if (← Reading.number 32) ≠ output.length % Nat.pow 2 32 then Reading.flawed .dataLength

/-! ## Codings -/

inductive Coding where
  | gzip
  | deflate
  deriving DecidableEq, Repr

namespace Coding

/-- The coding of a name in small letters; other names code nothing. -/
def ofName? (name : String) : Option Coding :=
  match name with
  | "gzip" => some .gzip
  | "deflate" => some .deflate
  | _ => none

/-- The octets that are coded.  What is no frame is taken for blocks. -/
def decode (coding : Coding) (octets : List UInt8) : Except Flaw (List UInt8) :=
  match coding with
  | .gzip => (member octets).run octets
  | .deflate =>
      match framed.run octets with
      | .ok output => .ok output
      | .error _ => Block.all.run octets

/-- The octets that were coded one coding after the other, first one first. -/
def decodeAll (codings : List Coding) (octets : List UInt8) : Except Flaw (List UInt8) :=
  codings.foldrM decode octets

end Coding

end TokenFlow.Compressed
