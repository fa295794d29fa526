/-
# TokenFlow.Compressed.PrefixCode -- symbols as strings of bits

A canonical prefix code is told by the lengths of its codes: codes of one length
are successive numbers in the order of their symbols, and shorter codes come
before longer ones.  The lengths have to use up all strings of bits, except that
a code of one symbol may have a single bit.
-/
import TokenFlow.Compressed.Reading

namespace TokenFlow.Compressed

set_option autoImplicit false

structure PrefixCode where
  /-- How many codes have a length, from length one on. -/
  counts : List Nat
  /-- The symbols in the order of their codes. -/
  symbols : List Nat

namespace PrefixCode

/-- How many strings of the last length are left over by codes of these lengths;
none when there are too few. -/
def spare? (counts : List Nat) : Option Nat :=
  counts.foldlM
    (fun spare count => if count ≤ 2 * spare then some (2 * spare - count) else none) 1

/-- The symbols whose codes have one length. -/
def symbolsOf (lengths : List Nat) (length : Nat) : List Nat :=
  (lengths.zipIdx.filter (·.1 = length)).map (·.2)

/-- The code of these lengths; a length of zero is that of a symbol without a code.
A code without symbols is read like one of a single bit that means nothing. -/
def ofLengths? (lengths : List Nat) (maySpare : Bool) : Option PrefixCode :=
  let longest := lengths.foldl max 0
  let bySize := (List.range (max longest 1)).map fun n => symbolsOf lengths (n + 1)
  let counts := bySize.map List.length
  let code : PrefixCode := ⟨counts, bySize.flatten⟩
  if longest = 0 then some code
  else
    match spare? counts with
    | none => none
    | some spare => if spare = 0 ∨ (maySpare ∧ longest = 1) then some code else none

/-- Reads one more bit for each length, until the bits are a code of that length.
`code` is the number of the bits so far, `first` that of the first code. -/
def readFrom (symbols : List Nat) : List Nat → Nat → Nat → Reading (Option Nat)
  | [], _, _ => pure none
  | count :: counts, code, first => do
      let code := 2 * code + (← Reading.number 1)
      if code < first + count then pure symbols[code - first]?
      else readFrom (symbols.drop count) counts code (2 * (first + count))

/-- The next symbol, unless the next bits are no code. -/
def read (code : PrefixCode) : Reading (Option Nat) :=
  readFrom code.symbols code.counts 0 0

end PrefixCode

end TokenFlow.Compressed
