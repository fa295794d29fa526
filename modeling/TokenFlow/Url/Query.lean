/-
# TokenFlow.Url.Query -- name and value pairs in a query

`encode` writes pairs as a form does: names and values percent-escaped, a space
as `+`, `=` inside a pair and `&` between pairs.  `decode` reads any text:
empty stretches between `&` are skipped, a pair without `=` has the empty
value, and order and repetition are kept.
-/
import TokenFlow.Text.Cut
import TokenFlow.Text.Percent

namespace TokenFlow.Url.Query

set_option autoImplicit false

open TokenFlow.Text

/-! ## Writing -/

def encodeChar (c : Char) : List Char :=
  if c = ' ' then ['+'] else Percent.encodeChar c

def encodeText (text : String) : List Char :=
  text.toList.flatMap encodeChar

def encodePair (pair : String × String) : List Char :=
  encodeText pair.1 ++ '=' :: encodeText pair.2

/-- The pairs joined by `&`. -/
def encodePairs : List (String × String) → List Char
  | [] => []
  | [pair] => encodePair pair
  | pair :: more => encodePair pair ++ '&' :: encodePairs more

def encode (pairs : List (String × String)) : String :=
  String.ofList (encodePairs pairs)

/-! ## Reading -/

def decodeText (text : List Char) : String :=
  String.ofList (Percent.decode (text.map fun c => if c = '+' then ' ' else c))

def decodePair (text : List Char) : String × String :=
  let (name, value) := cut '=' text
  (decodeText name, decodeText (value.getD []))

def decodePairs (query : List Char) : List (String × String) :=
  ((pieces '&' query).filter (· ≠ [])).map decodePair

def decode (query : String) : List (String × String) :=
  decodePairs query.toList

/-- The values of one name, in order. -/
def values (pairs : List (String × String)) (name : String) : List String :=
  (pairs.filter (·.1 = name)).map (·.2)

/-- The first value of one name. -/
def first? (pairs : List (String × String)) (name : String) : Option String :=
  pairs.lookup name

end TokenFlow.Url.Query
