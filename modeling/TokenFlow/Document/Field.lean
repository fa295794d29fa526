/-
# TokenFlow.Document.Field -- the fields of a document

A document is an object with known fields.  `required` fields must be there and
be texts; `optional` ones may be absent or null.  What is not a known field is
kept apart (`others`), because some documents carry further members.
-/
import TokenFlow.Document.Issue
import TokenFlow.Document.WholeNumber
import TokenFlow.Json.Reader

namespace TokenFlow.Document

set_option autoImplicit false

open TokenFlow.Json

/-- The members of an object. -/
abbrev Fields := List (String × Value)

namespace Fields

def optionalText (fields : Fields) (name : String) : Checked (Option String) :=
  match fields.lookup name with
  | none | some .null => .ok none
  | some (.string text) => .ok (some text)
  | some _ => .issue [.field name] .notText

def requiredText (fields : Fields) (name : String) : Checked String :=
  match fields.lookup name with
  | none => .issue [.field name] .missing
  | some (.string text) => .ok text
  | some _ => .issue [.field name] .notText

/-- A required text whose length in characters lies between two bounds. -/
def boundedText (fields : Fields) (name : String) (low high : Nat) : Checked String :=
  match requiredText fields name with
  | .ok text =>
      if text.length < low then .issue [.field name] .tooShort
      else if high < text.length then .issue [.field name] .tooLong
      else .ok text
  | bad => bad

/-- A text with a value to take when the field is absent. -/
def textOr (fields : Fields) (name fallback : String) : Checked String :=
  match fields.lookup name with
  | none => .ok fallback
  | some (.string text) => .ok text
  | some _ => .issue [.field name] .notText

def optionalWhole (fields : Fields) (name : String) : Checked (Option Int) :=
  match fields.lookup name with
  | none | some .null => .ok none
  | some value =>
      match WholeNumber.ofValue value with
      | .ok n => .ok (some n)
      | .error kind => .issue [.field name] kind

/-- The items of a list of texts, counted from `index`. -/
def itemTexts (name : String) : Nat → List Value → Checked (List String)
  | _, [] => .ok []
  | index, item :: rest =>
      let text : Checked String :=
        match item with
        | .string text => .ok text
        | _ => .issue [.field name, .item index] .notText
      List.cons <$> text <*> itemTexts name (index + 1) rest

def optionalTexts (fields : Fields) (name : String) : Checked (Option (List String)) :=
  match fields.lookup name with
  | none | some .null => .ok none
  | some (.array items) => some <$> itemTexts name 0 items
  | some _ => .issue [.field name] .notList

/-- The members that are none of the known fields. -/
def others (fields : Fields) (known : List String) : Fields :=
  fields.filter fun field => !known.contains field.1

end Fields

/-- The members of a body that is one JSON object in UTF-8. -/
def readFields (body : List UInt8) : Except (List Issue) Fields :=
  match Value.ofOctets? body with
  | none => .error [⟨[], .malformed⟩]
  | some (.object fields) => .ok fields
  | some _ => .error [⟨[], .notObject⟩]

/-- A body read as an object, then by its fields. -/
def read {α : Type} (ofFields : Fields → Checked α) (body : List UInt8) :
    Except (List Issue) α :=
  match readFields body with
  | .error issues => .error issues
  | .ok fields => (ofFields fields).toExcept

end TokenFlow.Document
