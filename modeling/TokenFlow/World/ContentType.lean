/-
# TokenFlow.World.ContentType -- the parameters of a content type

A content type is a name and parameters, with semicolons in between; a semicolon
inside quotation marks does not count.  The value of a parameter may be quoted,
or come in numbered sections, or be told together with its encoding and language;
a parameter that comes in one piece counts before one in sections.
-/
import TokenFlow.Text.Blank
import TokenFlow.Text.Cut
import TokenFlow.Text.Hex

namespace TokenFlow.Http.ContentType

set_option autoImplicit false

open TokenFlow.Text

/-! ## Pieces -/

/-- The stretches between the semicolons outside quotation marks.  A quotation mark
behind a backslash is text. -/
def sections (quoted escaped : Bool) : List Char → List (List Char)
  | [] => [[]]
  | c :: rest =>
      if c = ';' ∧ !quoted then [] :: sections false false rest
      else
        let quoted := if c = '"' ∧ !escaped then !quoted else quoted
        match sections quoted (c = '\\') rest with
        | [] => [[c]]
        | piece :: more => (c :: piece) :: more

/-- A parameter: its name in small letters, and its text. -/
structure Parameter where
  name : List Char
  text : List Char

def Parameter.ofSection (text : List Char) : Parameter :=
  let (name, value) := cut '=' text
  ⟨lowerAscii (trim isSeparator name), trim isSeparator (value.getD [])⟩

/-! ## Values -/

/-- Text with each backslash that stands before `marked` dropped. -/
def dropEscapes (marked : Char) : List Char → List Char
  | '\\' :: c :: rest =>
      if c = marked then c :: dropEscapes marked rest else '\\' :: dropEscapes marked (c :: rest)
  | c :: rest => c :: dropEscapes marked rest
  | [] => []

/-- The text inside quotation marks or angle brackets, or the text itself. -/
def unquote (text : List Char) : List Char :=
  let inner := (text.drop 1).dropLast
  if text.length < 2 then text
  else if text.head? = some '"' ∧ text.getLast? = some '"' then
    dropEscapes '"' (dropEscapes '\\' inner)
  else if text.head? = some '<' ∧ text.getLast? = some '>' then inner
  else text

/-- Text with its percent escapes read as characters of the same number. -/
def readEscapes : List Char → List Char
  | '%' :: high :: low :: rest =>
      match Hex.octet? high low with
      | some octet => Char.ofNat octet.toNat :: readEscapes rest
      | none => '%' :: readEscapes (high :: low :: rest)
  | c :: rest => c :: readEscapes rest
  | [] => []

/-- A section of a value. -/
structure Section where
  /-- Its place; the only section of a value may have none. -/
  number : Option Nat
  /-- It has percent escapes, and the value starts with encoding and language. -/
  extended : Bool
  text : List Char

def isWordChar (c : Char) : Bool :=
  c.isAlphanum || c == '_'

/-- The section in a parameter, and the name of the parameter it is a section of:
`name*`, `name*7` or `name*7*`. -/
def Parameter.section? (parameter : Parameter) : Option (List Char × Section) :=
  match cut '*' parameter.name with
  | (name, some rest) =>
      if name = [] ∨ !name.all isWordChar then none
      else
        let digits := rest.takeWhile Char.isDigit
        let extended := parameter.name.getLast? = some '*'
        let number := digits.foldl (fun n c => 10 * n + (c.toNat - 48)) 0
        if rest = [] then some (name, ⟨none, extended, unquote parameter.text⟩)
        else if digits ≠ [] ∧ (rest = digits ∨ rest = digits ++ ['*']) then
          some (name, ⟨some number, extended, unquote parameter.text⟩)
        else none
  | (_, none) => none

/-- The value of sections: their texts by number, without encoding and language. -/
def valueOfSections (sections : List Section) : List Char :=
  let ordered := sections.mergeSort fun a b => a.number.getD 0 ≤ b.number.getD 0
  let text := ordered.flatMap fun part => if part.extended then readEscapes part.text else part.text
  if sections.any (·.extended) then
    match cut '\'' text with
    | (_, some rest) =>
        match cut '\'' rest with
        | (_, some value) => value
        | (_, none) => text
    | (_, none) => text
  else text

/-- The value of a parameter of a content type. -/
def parameter? (name : List Char) (contentType : List Char) : Option (List Char) :=
  let parameters := (sections false false contentType).map Parameter.ofSection
  match parameters.find? (·.name = name) with
  | some parameter => some (unquote parameter.text)
  | none =>
      match (parameters.drop 1).filterMap (·.section?) |>.filter (·.1 = name) with
      | [] => none
      | sections => some (valueOfSections (sections.map (·.2)))

end TokenFlow.Http.ContentType
