/-
# TokenFlow.Number.Numeral -- a whole number as people write it

Blanks may stand around the number and one sign before it.  The digits may be
those of any script, mixed at will, and single underscores may separate them.
Leading zeros count as digits, of which there may be no more than `maxDigits`.
-/
import TokenFlow.Text.Blank
import TokenFlow.Text.DecimalDigit

namespace TokenFlow.Number.Numeral

set_option autoImplicit false

open TokenFlow.Text

def maxDigits : Nat := 4300

/-- The values of digits with underscores only between two of them. -/
def digitValues? : List Char → Option (List Nat)
  | [] => none
  | [digit] => (decimalValue? digit).map ([·])
  | digit :: '_' :: rest => (decimalValue? digit).bind fun n => (digitValues? rest).map (n :: ·)
  | digit :: rest => (decimalValue? digit).bind fun n => (digitValues? rest).map (n :: ·)

/-- A number without a sign. -/
def magnitude? (text : List Char) : Option Nat :=
  (digitValues? text).bind fun digits =>
    if digits.length ≤ maxDigits then some (digits.foldl (fun n digit => 10 * n + digit) 0)
    else none

def read? (text : List Char) : Option Int :=
  match trim isBlank text with
  | '-' :: rest => (magnitude? rest).map fun n => -(n : Int)
  | '+' :: rest => (magnitude? rest).map fun n => (n : Int)
  | rest => (magnitude? rest).map fun n => (n : Int)

end TokenFlow.Number.Numeral
