/-
# TokenFlow.Number.Decimal -- decimal digits of a double, and their layout

A magnitude has two decimal forms here.  `shortest` is the fewest digits that
no other double is nearer to, and of those the nearest; `significant` is a
fixed number of digits, correctly rounded.  A `Layout` says how digits and
exponent are written down: `Layout.full` for amounts in results,
`Layout.brief` for amounts in messages.
-/
import TokenFlow.Number.Binary64

namespace TokenFlow.Number

set_option autoImplicit false

/-- Digits `d₁d₂…` and an exponent, for the value `0.d₁d₂… * 10^exponent`. -/
structure Decimal where
  digits : Nat
  exponent : Int
  deriving DecidableEq, Repr

namespace Decimal

open Binary64

/-- How many decimal digits a positive number has. -/
def size (n : Nat) : Nat :=
  (Nat.toDigits 10 n).length

/-- The largest `j` up to a bound with `n * 10^j` still below one. -/
def leadingZeros (n : Nat) : Nat → Nat
  | 0 => 0
  | bound + 1 => if n * 10 < one then leadingZeros (n * 10) bound + 1 else 0

/-- The exponent `e` with `10^(e-1) ≤ units * 2^-1074 < 10^e`. -/
def exponentOf (units : Nat) : Int :=
  if one ≤ units then size (units / one) else -(leadingZeros units 400 : Int)

/-- `units * 2^-1074 / 10^power` as a quotient. -/
def scaled (units : Nat) (power : Int) : Nat × Nat :=
  (units * Nat.pow 10 (-power).toNat, one * Nat.pow 10 power.toNat)

/-- The given number of digits, correctly rounded. -/
def significant (count units : Nat) : Decimal :=
  let exponent := exponentOf units
  let (numerator, denominator) := scaled units (exponent - count)
  let digits := roundDiv numerator denominator
  if digits = Nat.pow 10 count then ⟨Nat.pow 10 (count - 1), exponent + 1⟩ else ⟨digits, exponent⟩

/-! ## Shortest digits -/

/-- The quarter units between the midpoints to the two neighbouring doubles. -/
def neighbourhood (units : Nat) : Nat × Nat :=
  let step := spacing units
  let below := if 1 < step ∧ units = Nat.pow 2 (Nat.log2 units) then step else 2 * step
  (4 * units - below, 4 * units + 2 * step)

/-- Whether `digits * 10^power` reads back as the double: it lies between the
midpoints, or on one of them when ties go to this double. -/
def readsBack (units : Nat) (power : Int) (digits : Nat) : Bool :=
  let (low, high) := neighbourhood units
  let value := digits * Nat.pow 10 power.toNat * (4 * one)
  let scale := Nat.pow 10 (-power).toNat
  if units / spacing units % 2 = 0 then low * scale ≤ value && value ≤ high * scale
  else low * scale < value && value < high * scale

/-- The nearest number with `count` digits that reads back, if there is one. -/
def withCount? (units count : Nat) : Option Decimal :=
  let exponent := exponentOf units
  let power := exponent - count
  let (numerator, denominator) := scaled units power
  let low := numerator / denominator
  let nearest := roundDiv numerator denominator
  let other := if nearest = low then low + 1 else low
  (([nearest, other].filter (0 < ·)).find? (readsBack units power)).map fun digits =>
    if digits = Nat.pow 10 count then ⟨Nat.pow 10 (count - 1), exponent + 1⟩ else ⟨digits, exponent⟩

/-- The fewest digits that read back; seventeen always do. -/
def shortest (units : Nat) : Decimal :=
  ((List.range' 1 17).findSome? (withCount? units)).getD (significant 17 units)

/-! ## Layout -/

/-- How a number is written. -/
structure Layout where
  /-- Exponents of the first digit from `-4` up to here are written positionally. -/
  positionalBelow : Int
  /-- A whole number keeps `.0`. -/
  keepsPoint : Bool

/-- Amounts in results: positional below 10^16, and visibly fractional. -/
def Layout.full : Layout := ⟨16, true⟩

/-- Amounts in messages: six digits, no more than needed. -/
def Layout.brief : Layout := ⟨6, false⟩

def dropZeros (digits : List Char) : List Char :=
  (digits.reverse.dropWhile (· = '0')).reverse

/-- Digits, a point and digits; the point only where something follows or is kept. -/
def point (layout : Layout) (whole fraction : List Char) : List Char :=
  if fraction ≠ [] then whole ++ '.' :: fraction
  else if layout.keepsPoint then whole ++ ".0".toList else whole

/-- At least two digits of exponent, with a sign. -/
def exponentText (exponent : Int) : List Char :=
  let digits := Nat.toDigits 10 exponent.natAbs
  let padded := if digits.length < 2 then '0' :: digits else digits
  'e' :: (if exponent < 0 then '-' else '+') :: padded

/-- A positive number in a layout. -/
def write (layout : Layout) (number : Decimal) : List Char :=
  let digits := dropZeros (Nat.toDigits 10 number.digits)
  let first := number.exponent - 1
  if -4 ≤ first ∧ first < layout.positionalBelow then
    if first < 0 then
      point layout ['0'] (List.replicate (-number.exponent).toNat '0' ++ digits)
    else
      let whole := number.exponent.toNat
      point layout (digits.take whole ++ List.replicate (whole - digits.length) '0')
        (digits.drop whole)
  else
    (match digits with
      | [] => ['0']
      | [digit] => [digit]
      | digit :: more => digit :: '.' :: more)
    ++ exponentText first

end Decimal

namespace Binary64

/-- A double in a layout, with digits chosen by `form`. -/
def write (layout : Decimal.Layout) (form : Nat → Decimal) : Binary64 → List Char
  | .nan => "nan".toList
  | .infinite negative => (if negative then "-inf" else "inf").toList
  | .negativeZero => '-' :: Decimal.point layout ['0'] []
  | .finite units =>
      if units = 0 then Decimal.point layout ['0'] []
      else (if units < 0 then ['-'] else []) ++ Decimal.write layout (form units.natAbs)

/-- The fewest digits that read back. -/
def toText (x : Binary64) : String :=
  String.ofList (x.write .full Decimal.shortest)

/-- At most six significant digits. -/
def toBrief (x : Binary64) : String :=
  String.ofList (x.write .brief (Decimal.significant 6))

end Binary64

end TokenFlow.Number
