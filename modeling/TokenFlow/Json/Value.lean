/-
# TokenFlow.Json.Value -- what a JSON text denotes

Whole numbers and doubles are told apart, because a document field may accept
the one and not the other.  An object keeps its fields in order of first
appearance and holds each name once: a repeated name takes the last value.
-/
import TokenFlow.Number.Binary64

namespace TokenFlow.Json

set_option autoImplicit false

open TokenFlow.Number

inductive Value where
  | null
  | bool (value : Bool)
  | integer (value : Int)
  | real (value : Binary64)
  | string (value : String)
  | array (items : List Value)
  | object (fields : List (String × Value))
  deriving Inhabited

/-- Sets one field; a name that is already there keeps its place. -/
def setField (fields : List (String × Value)) (name : String) (value : Value) :
    List (String × Value) :=
  if fields.any (·.1 == name) then
    fields.map fun field => if field.1 == name then (name, value) else field
  else fields ++ [(name, value)]

end TokenFlow.Json
