/-
# TokenFlow.Json.Token -- the marks, strings and words of a JSON text

`lex` divides a text into tokens.  A word is a maximal run of letters, digits,
signs and points; it is one of the six names (`NaN`, `Infinity` and `-Infinity`
included) or a number in the strict grammar, and nothing else is a token.  Two
words can therefore never touch.
-/
import TokenFlow.Json.Value
import TokenFlow.Text.Hex

namespace TokenFlow.Json

set_option autoImplicit false

open TokenFlow.Number

inductive Token where
  | openArray
  | closeArray
  | openObject
  | closeObject
  | comma
  | colon
  | text (value : String)
  | scalar (value : Value)

/-! ## Strings -/

/-- The code unit of four hexadecimal digits. -/
def codeUnit? (a b c d : Char) : Option Nat :=
  match Text.Hex.value? a, Text.Hex.value? b, Text.Hex.value? c, Text.Hex.value? d with
  | some p, some q, some r, some s => some (p * 4096 + q * 256 + r * 16 + s)
  | _, _, _, _ => none

def isHighSurrogate (unit : Nat) : Bool :=
  0xD800 ≤ unit && unit < 0xDC00

def isLowSurrogate (unit : Nat) : Bool :=
  0xDC00 ≤ unit && unit < 0xE000

/-- The character of a surrogate pair. -/
def pairChar (high low : Nat) : Char :=
  Char.ofNat (0x10000 + (high - 0xD800) * 1024 + (low - 0xDC00))

/-- The character after a backslash, for the escapes of one letter. -/
def escaped? : Char → Option Char
  | '"' => some '"'
  | '\\' => some '\\'
  | '/' => some '/'
  | 'b' => some '\x08'
  | 'f' => some '\x0c'
  | 'n' => some '\n'
  | 'r' => some '\r'
  | 't' => some '\t'
  | _ => none

/-- The characters up to the closing quote, and the text after it. -/
def readString : List Char → Option (List Char × List Char)
  | [] => none
  | '"' :: rest => some ([], rest)
  | '\\' :: 'u' :: a :: b :: c :: d :: rest =>
      match codeUnit? a b c d with
      | none => none
      | some unit =>
          if isHighSurrogate unit then
            match rest with
            | '\\' :: 'u' :: e :: f :: g :: h :: rest =>
                match codeUnit? e f g h with
                | none => none
                | some low =>
                    if isLowSurrogate low then
                      (readString rest).map fun (text, after) =>
                        (pairChar unit low :: text, after)
                    else none
            | _ => none
          else if isLowSurrogate unit then none
          else (readString rest).map fun (text, after) => (Char.ofNat unit :: text, after)
  | '\\' :: letter :: rest =>
      match escaped? letter with
      | none => none
      | some c => (readString rest).map fun (text, after) => (c :: text, after)
  | c :: rest =>
      if c.toNat < 0x20 then none
      else (readString rest).map fun (text, after) => (c :: text, after)

theorem length_of_readString {input text after : List Char}
    (h : readString input = some (text, after)) : after.length < input.length := by
  fun_induction readString input generalizing text after <;>
    simp_all only [Option.map_eq_some_iff, Prod.mk.injEq, Prod.exists, reduceCtorEq,
      List.length_cons, Option.some.injEq] <;> grind

/-! ## Numbers -/

def isDigit (c : Char) : Bool :=
  '0' ≤ c && c ≤ '9'

def digitsValue (digits : List Char) : Nat :=
  digits.foldl (fun n c => 10 * n + (c.toNat - 48)) 0

/-- The most digits before a point or an exponent that are read. -/
def maxWholeLength : Nat := 4300

/-- `e`, an optional sign and digits. -/
def readExponent? : List Char → Option Int
  | [] => some 0
  | mark :: rest =>
      if mark = 'e' ∨ mark = 'E' then
        let (negative, digits) :=
          match rest with
          | '-' :: digits => (true, digits)
          | '+' :: digits => (false, digits)
          | digits => (false, digits)
        if digits ≠ [] ∧ digits.all isDigit then
          some (if negative then -(digitsValue digits : Int) else digitsValue digits)
        else none
      else none

/-- A number without its sign: digits without a superfluous zero, a fraction and
an exponent.  It is whole exactly when it has neither of the latter. -/
def readMagnitude? (negative : Bool) (word : List Char) : Option Value :=
  let whole := word.takeWhile isDigit
  let rest := word.dropWhile isDigit
  if whole = [] ∨ (1 < whole.length ∧ whole.head? = some '0') ∨ maxWholeLength < whole.length then
    none
  else
    match rest with
    | [] =>
        some (.integer (if negative then -(digitsValue whole : Int) else digitsValue whole))
    | '.' :: rest =>
        let fraction := rest.takeWhile isDigit
        if fraction = [] then none
        else
          (readExponent? (rest.dropWhile isDigit)).map fun exponent =>
            .real (.ofDecimal negative (digitsValue (whole ++ fraction))
              (exponent - fraction.length))
    | rest =>
        (readExponent? rest).map fun exponent =>
          .real (.ofDecimal negative (digitsValue whole) exponent)

def readWord? (word : List Char) : Option Value :=
  match String.ofList word with
  | "null" => some .null
  | "true" => some (.bool true)
  | "false" => some (.bool false)
  | "NaN" => some (.real .nan)
  | "Infinity" => some (.real (.infinite false))
  | "-Infinity" => some (.real (.infinite true))
  | _ =>
      match word with
      | '-' :: rest => readMagnitude? true rest
      | rest => readMagnitude? false rest

/-! ## Tokens -/

def isSpace (c : Char) : Bool :=
  c == ' ' || c == '\t' || c == '\n' || c == '\r'

def isWordChar (c : Char) : Bool :=
  c.isAlphanum || c == '+' || c == '-' || c == '.'

def mark? : Char → Option Token
  | '[' => some .openArray
  | ']' => some .closeArray
  | '\x7b' => some .openObject
  | '\x7d' => some .closeObject
  | ',' => some .comma
  | ':' => some .colon
  | _ => none

theorem length_dropWhile_le (p : Char → Bool) (text : List Char) :
    (text.dropWhile p).length ≤ text.length :=
  (List.dropWhile_suffix p).length_le

/-- The tokens of a text; none when something in it is no token. -/
def lex? : List Char → Option (List Token)
  | [] => some []
  | c :: rest =>
      if isSpace c then lex? rest
      else
        match mark? c with
        | some mark => (lex? rest).map (mark :: ·)
        | none =>
            if c = '"' then
              match h : readString rest with
              | none => none
              | some (text, after) =>
                  have := length_of_readString h
                  (lex? after).map (.text (String.ofList text) :: ·)
            else if isWordChar c then
              have := length_dropWhile_le isWordChar rest
              match readWord? (c :: rest.takeWhile isWordChar) with
              | none => none
              | some value => (lex? (rest.dropWhile isWordChar)).map (.scalar value :: ·)
            else none
termination_by text => text.length

end TokenFlow.Json
