/-
# TokenFlow.Document.Issue -- what is wrong with a document

An issue says where in a document something is wrong and what kind of wrong it
is.  A reader that finds several reports them all, in the order of the fields:
`Checked` is a result or the issues, and applying one checked result to another
joins their issues.
-/

namespace TokenFlow.Document

set_option autoImplicit false

/-- One step into a document. -/
inductive Step where
  | field (name : String)
  | item (index : Nat)
  deriving DecidableEq, Repr

inductive IssueKind where
  /-- The octets are no JSON text. -/
  | malformed
  /-- The value is no object. -/
  | notObject
  | missing
  | notText
  | notList
  /-- Neither a whole number nor anything that can be read as one. -/
  | notWhole
  /-- A text that is no whole number. -/
  | unreadableWhole
  /-- A number with a fraction. -/
  | fractional
  | notFinite
  /-- A whole number too large to be read. -/
  | oversized
  | tooShort
  | tooLong
  deriving DecidableEq, Repr

/-- The name of a kind in reports. -/
def IssueKind.code : IssueKind → String
  | .malformed => "json_invalid"
  | .notObject => "model_type"
  | .missing => "missing"
  | .notText => "string_type"
  | .notList => "list_type"
  | .notWhole => "int_type"
  | .unreadableWhole => "int_parsing"
  | .fractional => "int_from_float"
  | .notFinite => "finite_number"
  | .oversized => "int_parsing_size"
  | .tooShort => "string_too_short"
  | .tooLong => "string_too_long"

structure Issue where
  path : List Step
  kind : IssueKind
  deriving DecidableEq, Repr

/-- A value, or every issue that stands in its way. -/
inductive Checked (α : Type) where
  | ok (value : α)
  | bad (issues : List Issue)

namespace Checked

instance : Functor Checked where
  map f
    | .ok value => .ok (f value)
    | .bad issues => .bad issues

instance : Applicative Checked where
  pure := .ok
  seq f x :=
    match f, x () with
    | .ok f, .ok value => .ok (f value)
    | .ok _, .bad issues => .bad issues
    | .bad issues, .ok _ => .bad issues
    | .bad issues, .bad more => .bad (issues ++ more)

def issue {α : Type} (path : List Step) (kind : IssueKind) : Checked α :=
  .bad [⟨path, kind⟩]

def toExcept {α : Type} : Checked α → Except (List Issue) α
  | .ok value => .ok value
  | .bad issues => .error issues

end Checked

end TokenFlow.Document
