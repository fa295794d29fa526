/-
# TokenFlow.Number.Binary64 -- double precision, exactly

A finite double is a whole multiple of 2^-1074, so it is kept as that multiple
and every comparison is a comparison of integers.  Arithmetic is exact
arithmetic followed by `ofUnits`, which rounds to 53 significant bits, a tie to
the even neighbour; integers up to 2^53 are therefore added without any error.
Zero keeps its sign, since printing shows it.
-/

namespace TokenFlow.Number

set_option autoImplicit false

/-- A double precision number.  `finite units` is `units * 2^-1074`; positive
zero is `finite 0`. -/
inductive Binary64 where
  | finite (units : Int)
  | negativeZero
  | infinite (negative : Bool)
  | nan
  deriving DecidableEq, Repr, Inhabited

/-- The quotient rounded to the nearest whole number, a tie to the even one. -/
def roundDiv (numerator denominator : Nat) : Nat :=
  let quotient := numerator / denominator
  let twice := 2 * (numerator % denominator)
  if twice < denominator then quotient
  else if denominator < twice then quotient + 1
  else if quotient % 2 = 0 then quotient else quotient + 1

namespace Binary64

/-- The units in one: 2^1074. -/
def one : Nat := Nat.pow 2 1074

/-- The first magnitude, in units, that is too large: 2^1024. -/
def limit : Nat := Nat.pow 2 2098

/-! ## Rounding -/

/-- The spacing of doubles around a magnitude, in units: 53 significant bits. -/
def spacing (units : Nat) : Nat :=
  Nat.pow 2 (Nat.log2 units - 52)

/-- The nearest magnitude that a double can have, in units, before the limit is looked at. -/
def roundRatio (numerator denominator : Nat) : Nat :=
  let step := spacing (numerator / denominator)
  roundDiv numerator (denominator * step) * step

/-- The double with the given sign nearest to `numerator / denominator` units. -/
def ofRatio (negative : Bool) (numerator denominator : Nat) : Binary64 :=
  let magnitude := roundRatio numerator denominator
  if limit ≤ magnitude then .infinite negative
  else if negative then (if magnitude = 0 then .negativeZero else .finite (-magnitude))
  else .finite magnitude

/-- The double nearest to a whole number of units. -/
def ofUnits (units : Int) : Binary64 :=
  ofRatio (decide (units < 0)) units.natAbs 1

/-- The double nearest to a whole number, when that is not beyond all doubles. -/
def ofInt? (n : Int) : Option Binary64 :=
  match ofUnits (n * one) with
  | .infinite _ => none
  | x => some x

/-- The double nearest to `±digits * 10^exponent`.  The exponent is bounded
first, so that a far exponent costs nothing. -/
def ofDecimal (negative : Bool) (digits : Nat) (exponent : Int) : Binary64 :=
  let size := (Nat.toDigits 10 digits).length
  if digits = 0 then (if negative then .negativeZero else .finite 0)
  else if exponent + size > 310 then .infinite negative
  else if exponent + size < -330 then (if negative then .negativeZero else .finite 0)
  else ofRatio negative (digits * one * Nat.pow 10 exponent.toNat)
    (Nat.pow 10 (-exponent).toNat)

/-! ## Value and order -/

/-- The units of a finite number; zero for the others. -/
def units : Binary64 → Int
  | .finite units => units
  | _ => 0

def isFinite : Binary64 → Bool
  | .finite _ | .negativeZero => true
  | _ => false

/-- A whole number as it is.  It is not rounded, which makes the order exact
between whole numbers of any size and doubles. -/
def exactly (n : Int) : Binary64 :=
  .finite (n * one)

/-- Less or equal; false as soon as one side is no number. -/
def le : Binary64 → Binary64 → Bool
  | .nan, _ => false
  | _, .nan => false
  | .infinite true, _ => true
  | _, .infinite false => true
  | .infinite false, _ => false
  | _, .infinite true => false
  | a, b => a.units ≤ b.units

/-- Strictly less; false as soon as one side is no number. -/
def lt (a b : Binary64) : Bool :=
  a.le b && !b.le a

/-- The whole number this is, if it is one. -/
def toInt? : Binary64 → Option Int
  | .finite units => if units % one = 0 then some (units / one) else none
  | .negativeZero => some 0
  | _ => none

/-! ## Arithmetic -/

def add : Binary64 → Binary64 → Binary64
  | .nan, _ => .nan
  | _, .nan => .nan
  | .infinite a, .infinite b => if a = b then .infinite a else .nan
  | .infinite a, _ => .infinite a
  | _, .infinite b => .infinite b
  | .negativeZero, .negativeZero => .negativeZero
  | a, b => ofUnits (a.units + b.units)

/-- The number itself when it is above zero, else zero. -/
def clamp (x : Binary64) : Binary64 :=
  if (exactly 0).lt x then x else .finite 0

end Binary64

end TokenFlow.Number
