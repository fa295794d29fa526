/-
# TokenFlow.Host.Label -- the labels of an international host name

A label is a list of code points in composed form.  It has two spellings: its
own, and an ASCII one, which is `xn--` and a Punycode transcription when the
label is not ASCII itself.  `error?` is the rule for valid labels (IDNA 2008):
the form as a whole, then every code point in its neighbourhood, then the mixing
of directions; the first violation in this order is the one that counts.
-/
import TokenFlow.Host.Composite
import TokenFlow.Host.Letter
import TokenFlow.Host.Punycode
import TokenFlow.Host.Script

namespace TokenFlow.Host

set_option autoImplicit false

/-- Why a label is not valid. -/
inductive LabelError where
  /-- Its length, its hyphens, its first mark, its composition or its transcription. -/
  | form
  /-- It holds a code point that no label holds. -/
  | codePoint
  /-- It holds a code point that does not go with its neighbours. -/
  | neighbours
  /-- It mixes directions. -/
  | direction
  deriving DecidableEq, Repr

namespace Label

/-! ## Form -/

/-- The longest label that is looked at, and the longest in ASCII. -/
def maxLength : Nat := 254

def maxAsciiLength : Nat := 63

def hyphen : Nat := 0x2D

/-- No hyphen at either end, and none in both the third and the fourth place. -/
def hasGoodHyphens (label : List Nat) : Bool :=
  (label.drop 2).take 2 ≠ [hyphen, hyphen] && label.head? ≠ some hyphen
    && label.getLast? ≠ some hyphen

def hasGoodForm (label : List Nat) : Bool :=
  label ≠ [] && label.length ≤ maxLength && Composite.isComposed label && hasGoodHyphens label
    && !label.head?.any isMark

/-! ## Neighbours -/

/-- The joiners, which only some neighbours call for. -/
def nonJoiner : Nat := 0x200C

def joiner : Nat := 0x200D

def isJoiner (n : Nat) : Bool :=
  n = joiner || n = nonJoiner

def katakanaDot : Nat := 0x30FB

def isArabicDigit (n : Nat) : Bool :=
  0x660 ≤ n && n ≤ 0x669

def isPersianDigit (n : Nat) : Bool :=
  0x6F0 ≤ n && n ≤ 0x6F9

/-- The code points with a rule about their neighbours, joiners aside. -/
def isContextual (n : Nat) : Bool :=
  [0xB7, 0x375, 0x5F3, 0x5F4, katakanaDot].contains n || isArabicDigit n || isPersianDigit n

/-- The letters around a joiner join across it.  `before` has the nearest first. -/
def joinsAcross (before after : List Nat) : Bool :=
  (before.dropWhile isTransparent).head?.any joinsNext
    && (after.dropWhile isTransparent).head?.any joinsPrevious

/-- The rule of a code point among its neighbours, nearest first on both sides. -/
def fits (before : List Nat) (n : Nat) (after : List Nat) : Bool :=
  if isJoiner n then
    before.head?.any (combiningClass · = viramaClass) || (n = nonJoiner && joinsAcross before after)
  else if n = 0xB7 then before.head? = some 0x6C && after.head? = some 0x6C
  else if n = 0x375 then after.head?.any isGreek
  else if n = 0x5F3 ∨ n = 0x5F4 then before.head?.any isHebrew
  else if n = katakanaDot then (before ++ after).any fun m => m ≠ katakanaDot && isJapanese m
  else if isArabicDigit n then !(before ++ after).any isPersianDigit
  else !(before ++ after).any isArabicDigit

/-- The first violation by a code point of the rest of a label.  A joiner in the wrong
place is taken for a fault of form. -/
def codePointError? (before : List Nat) : List Nat → Option LabelError
  | [] => none
  | n :: after =>
      if isLetter n || ((isJoiner n || isContextual n) && fits before n after) then
        codePointError? (n :: before) after
      else if isJoiner n then some .form
      else if isContextual n then some .neighbours
      else some .codePoint

/-! ## Direction -/

/-- A label that runs from right to left: nothing runs the other way, the digits are
of one kind, and the last code point that takes room is a letter or digit. -/
def runsLeft (directions : List Direction) : Bool :=
  !directions.contains .leftToRight
    && !(directions.contains .arabicNumber && directions.contains .europeanNumber)
    && (directions.reverse.dropWhile (· = .nonspacing)).head?.any
      [.rightToLeft, .arabicNumber, .europeanNumber].contains

/-- A label that runs from left to right, in the same sense. -/
def runsRight (directions : List Direction) : Bool :=
  !directions.contains .rightToLeft && !directions.contains .arabicNumber
    && (directions.reverse.dropWhile (· = .nonspacing)).head?.any
      [.leftToRight, .europeanNumber].contains

/-- The directions go together.  Where nothing runs from right to left, there is no
rule; otherwise the first code point says which way the label runs. -/
def hasGoodDirections (label : List Nat) : Bool :=
  let directions := label.map Direction.ofCodePoint
  if directions.contains .unknown then false
  else if directions.contains .rightToLeft || directions.contains .arabicNumber then
    match directions.head? with
    | some .rightToLeft => runsLeft directions
    | some .leftToRight => runsRight directions
    | _ => false
  else true

/-! ## The rule -/

/-- Why a label is not valid, if it is not. -/
def error? (label : List Nat) : Option LabelError :=
  if !hasGoodForm label then some .form
  else
    match codePointError? [] label with
    | some error => some error
    | none => if hasGoodDirections label then none else some .direction

/-- A label with the rule checked. -/
def check (label : List Nat) : Except LabelError (List Nat) :=
  match error? label with
  | some error => .error error
  | none => .ok label

/-! ## Spellings -/

def asciiMark : List Char := "xn--".toList

/-- The label that an ASCII spelling in small letters stands for. -/
def ofAscii (spelling : List Char) : Except LabelError (List Nat) :=
  if asciiMark.isPrefixOf spelling then
    let transcription := spelling.drop asciiMark.length
    if transcription = [] ∨ transcription.getLast? = some '-' then .error .form
    else
      match Punycode.decode? transcription with
      | some label => check label
      | none => .error .form
  else check (spelling.map Char.toNat)

/-- The ASCII spelling of a label in small letters. -/
def toAscii (label : List Char) : Except LabelError (List Char) := do
  let codePoints := label.map Char.toNat
  let spelling ←
    if label.all (·.toNat < Punycode.firstExtended) then
      let _ ← ofAscii label
      pure label
    else
      let _ ← check codePoints
      pure (asciiMark ++ Punycode.encode codePoints)
  if spelling.length ≤ maxAsciiLength then pure spelling else throw .form

end Label

end TokenFlow.Host
