/-
# TokenFlow.Text.Markup -- text inside a page

`escape` replaces the five characters that markup gives a meaning by entities,
one at a time, so no character of the text can open a tag, close an attribute
or be taken for an entity.
-/

namespace TokenFlow.Text.Markup

set_option autoImplicit false

/-- A character as it stands in a page. -/
def escapeChar : Char → List Char
  | '&' => "&amp;".toList
  | '<' => "&lt;".toList
  | '>' => "&gt;".toList
  | '"' => "&quot;".toList
  | '\'' => "&#x27;".toList
  | c => [c]

def escape (text : List Char) : List Char :=
  text.flatMap escapeChar

end TokenFlow.Text.Markup
