/-
# TokenFlow.Document.WholeNumber -- a whole number in a document

Issuers write durations in many ways.  A whole number is read from an integer,
from a truth value, from a double without fraction inside the 64-bit range, and
from a text.  A text is read as it stands when it is a number in its plain form,
with digits and at most a minus sign; only then can it be too long.  Any other
text is tidied first, and what is still not plain is unreadable.
-/
import TokenFlow.Document.Issue
import TokenFlow.Json.Token
import TokenFlow.Text.Blank

namespace TokenFlow.Document.WholeNumber

set_option autoImplicit false

open TokenFlow.Json TokenFlow.Number TokenFlow.Text

/-! ## Plain form -/

/-- A minus sign, if there is one, and the rest. -/
def splitMinus : List Char → Bool × List Char
  | '-' :: rest => (true, rest)
  | rest => (false, rest)

/-- A number that begins in plain form, with more digits than are read. -/
def isOversized (text : List Char) : Bool :=
  let digits := (splitMinus text).2.takeWhile isDigit
  digits.head? ≠ some '0' && maxWholeLength < digits.length

/-- The number of a plain text: at most a minus sign, and digits of which the first
is not a zero unless it is the only one. -/
def plain? (text : List Char) : Option Int :=
  let (negative, digits) := splitMinus text
  if digits ≠ [] ∧ digits.all isDigit ∧ (digits.head? = some '0' → digits = ['0'])
      ∧ digits.length ≤ maxWholeLength then
    some (if negative then -(digitsValue digits : Int) else digitsValue digits)
  else none

/-! ## Tidying -/

def isZeroOrUnderscore (c : Char) : Bool :=
  c = '0' || c = '_'

/-- Drops the zeros at the front, and the underscores among them, as far as
something is left: the last of them stays before a point and at the end. -/
def dropLeadingZeros? (text : List Char) : Option (List Char) :=
  match text with
  | '0' :: _ =>
      let rest := text.dropWhile isZeroOrUnderscore
      match rest with
      | [] | '.' :: _ => some ((text.takeWhile isZeroOrUnderscore).getLast?.toList ++ rest)
      | c :: _ => if isDigit c || c = '-' then some rest else none
  | c :: _ => if isDigit c || c = '-' then some text else none
  | [] => none

/-- The text without a point and zeros at its end. -/
def dropZeroFraction (text : List Char) : List Char :=
  let whole := text.takeWhile (· ≠ '.')
  match text.dropWhile (· ≠ '.') with
  | '.' :: fraction => if fraction ≠ [] ∧ fraction.all (· = '0') then whole else text
  | _ => text

/-- Two underscores stand next to each other. -/
def hasDoubleUnderscore : List Char → Bool
  | '_' :: '_' :: _ => true
  | _ :: rest => hasDoubleUnderscore rest
  | [] => false

/-- Drops underscores when each of them has other characters on both sides. -/
def dropUnderscores (text : List Char) : List Char :=
  if text.head? = some '_' ∨ text.getLast? = some '_' ∨ hasDoubleUnderscore text then text
  else text.filter (· ≠ '_')

/-- The text without leading zeros, behind its sign; a plus sign is dropped, and a
second sign is allowed only after zeros that are dropped with a plus sign or alone. -/
def dropSignedZeros? (text : List Char) : Option (List Char) :=
  match text with
  | '+' :: '-' :: _ => none
  | '+' :: rest => dropLeadingZeros? rest
  | '-' :: rest =>
      match dropLeadingZeros? rest with
      | some ('-' :: _) | none => none
      | some digits => some ('-' :: digits)
  | rest => dropLeadingZeros? rest

/-- A text without what a number may be dressed up with: blanks around it, a plus
sign, leading zeros, a fraction of zeros and single underscores. -/
def tidy? (text : List Char) : Option (List Char) :=
  (dropSignedZeros? (trim isBlank text)).map fun number =>
    dropUnderscores (dropZeroFraction number)

def ofText (text : List Char) : Except IssueKind Int :=
  if isOversized text then .error .oversized
  else
    match (plain? text).or ((tidy? text).bind plain?) with
    | some number => .ok number
    | none => .error .unreadableWhole

/-! ## Values -/

/-- Strictly inside the 64-bit range, as doubles. -/
def inWordRange (n : Int) : Bool :=
  -(Int.pow 2 63) < n && n < Int.pow 2 63

def ofReal (x : Binary64) : Except IssueKind Int :=
  if !x.isFinite then .error .notFinite
  else
    match x.toInt? with
    | none => .error .fractional
    | some n => if inWordRange n then .ok n else .error .oversized

def ofValue : Value → Except IssueKind Int
  | .integer n => .ok n
  | .bool flag => .ok (if flag then 1 else 0)
  | .real x => ofReal x
  | .string text => ofText text.toList
  | _ => .error .notWhole

end TokenFlow.Document.WholeNumber
