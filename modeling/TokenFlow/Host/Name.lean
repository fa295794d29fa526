/-
# TokenFlow.Host.Name -- international host names

A host name is labels with dots between them, and perhaps a dot at the end.
Four characters are dots.  The whole name is bounded in length, in both of its
spellings.
-/
import TokenFlow.Host.Label

namespace TokenFlow.Host.Name

set_option autoImplicit false

open TokenFlow.Text

/-- The longest name, the dot at its end aside. -/
def maxLength : Nat := 253

def isDot (c : Char) : Bool :=
  ['.', '。', '．', '｡'].contains c

/-- The labels of a name, and whether a dot stands at its end. -/
def labels (name : List Char) : List (List Char) × Bool :=
  let parts := pieces '.' (name.map fun c => if isDot c then '.' else c)
  if 1 < parts.length ∧ parts.getLast? = some [] then (parts.dropLast, true) else (parts, false)

/-- Labels with dots between them, and one at the end if it is wanted. -/
def join (labels : List (List Char)) (dotted : Bool) : List Char :=
  List.intercalate ['.'] labels ++ (if dotted then ['.'] else [])

/-- The ASCII spelling of a name in small letters. -/
def toAscii (name : List Char) : Except LabelError (List Char) := do
  if maxLength + 1 < name.length then throw .form
  let (parts, dotted) := labels name
  let spelling := join (← parts.mapM Label.toAscii) dotted
  if spelling.length ≤ (if dotted then maxLength + 1 else maxLength) then pure spelling
  else throw .form

/-- The name that an ASCII spelling in small letters stands for. -/
def ofAscii (spelling : List Char) : Except LabelError (List Char) := do
  if maxLength + 1 < spelling.length then throw .form
  let (parts, dotted) := labels spelling
  let found ← parts.mapM Label.ofAscii
  pure (join (found.map (·.map Char.ofNat)) dotted)

end TokenFlow.Host.Name
