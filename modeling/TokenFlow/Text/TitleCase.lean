/-
# TokenFlow.Text.TitleCase -- small letters, and words with a capital first letter

In title case, a character is title-cased when the one before it is not cased,
and lower-cased otherwise.  A capital sigma that is lower-cased becomes the final form exactly
when a cased letter stands before it and none after it, where ignorable
characters in between do not count.
-/
import TokenFlow.Text.LetterCase

namespace TokenFlow.Text

set_option autoImplicit false

/-- The first character that is not ignorable is cased. -/
def leadsWithCased (text : List Char) : Bool :=
  match text.dropWhile LetterCase.isIgnorable with
  | [] => false
  | c :: _ => LetterCase.isCased c

/-- Lower casing of `c`, with the characters before it (nearest first) and after it. -/
def lowerBetween (before : List Char) (c : Char) (after : List Char) : List Char :=
  if c = 'Σ' then
    if leadsWithCased before && !leadsWithCased after then ['ς'] else ['σ']
  else LetterCase.toLower c

/-- Lower casing of the rest of a text, where `before` is what was already read,
nearest first. -/
def lowerAfter (before : List Char) : List Char → List Char
  | [] => []
  | c :: after => lowerBetween before c after ++ lowerAfter (c :: before) after

def lowerCase (text : List Char) : List Char :=
  lowerAfter [] text

/-- Title casing of the rest of a text, where `before` is what was already read,
nearest first. -/
def titleAfter (before : List Char) : List Char → List Char
  | [] => []
  | c :: after =>
      (match before with
        | previous :: _ =>
            if LetterCase.isCased previous then lowerBetween before c after
            else LetterCase.toTitle c
        | [] => LetterCase.toTitle c)
      ++ titleAfter (c :: before) after

def titleCase (text : List Char) : List Char :=
  titleAfter [] text

end TokenFlow.Text
