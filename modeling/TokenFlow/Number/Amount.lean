/-
# TokenFlow.Number.Amount -- amounts of time as they were given

A setting may be a whole number of any size or a double, and keeps what it was:
it is reported as given, and compared exactly.  Only adding it to the clock
turns it into a double, which fails when it is beyond all doubles.
-/
import TokenFlow.Number.Decimal

namespace TokenFlow.Number

set_option autoImplicit false

/-- An amount as given. -/
inductive Amount where
  | whole (n : Int)
  | real (x : Binary64)
  deriving DecidableEq, Repr

namespace Amount

/-- The amount as a double; none for a whole number beyond all doubles. -/
def toBinary64? : Amount → Option Binary64
  | .whole n => Binary64.ofInt? n
  | .real x => some x

/-- How far a clock moves while the amount passes: not at all when it is below zero,
and none when it is a whole number beyond all doubles. -/
def elapsed? : Amount → Option Binary64
  | .whole n => Binary64.ofInt? (max n 0)
  | .real x => some x.clamp

/-- The amount in the order of doubles, without rounding. -/
def exact : Amount → Binary64
  | .whole n => Binary64.exactly n
  | .real x => x

/-- Whether an amount is more than the longest wait, which no wait below zero is. -/
def exceeds (amount : Amount) (longest : Binary64) : Bool :=
  (Binary64.exactly 0).lt amount.exact && longest.lt amount.exact

instance (n : Nat) : OfNat Amount n := ⟨.whole n⟩

end Amount

end TokenFlow.Number
