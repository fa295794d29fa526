/-
# TokenFlow.Json.Reader -- one value from a text

The tokens drive a machine with a stack of open containers: each token is
allowed or not by what the innermost container waits for.  A text is accepted
when the machine ends with one value and nothing open.  The stack is bounded,
and octets that are not UTF-8 are refused before anything else.
-/
import TokenFlow.Json.Token
import TokenFlow.Text.Utf8

namespace TokenFlow.Json

set_option autoImplicit false

/-- A container that is still open. -/
inductive Frame where
  /-- The items so far, last one first. -/
  | array (items : List Value)
  /-- The fields so far, and the name whose value comes next. -/
  | object (fields : List (String × Value)) (name : String)

/-- What may come next. -/
inductive Expecting where
  | value
  /-- The first item of an array, or its end. -/
  | itemOrEnd
  /-- A comma, or the end of the innermost container. -/
  | commaOrEnd
  /-- The first name of an object, or its end. -/
  | nameOrEnd
  | name
  | colon
  /-- Nothing: the value is complete. -/
  | nothing (value : Value)

structure Reader where
  stack : List Frame
  expecting : Expecting

namespace Reader

/-- The deepest nesting of containers that hold something.  An empty one may stand
one level deeper, because the limit is met on the way to a first item. -/
def maxDepth : Nat := 200

def initial : Reader := ⟨[], .value⟩

/-- A complete value goes into the innermost container. -/
def deliver (stack : List Frame) (value : Value) : Reader :=
  match stack with
  | [] => ⟨[], .nothing value⟩
  | .array items :: below => ⟨.array (value :: items) :: below, .commaOrEnd⟩
  | .object fields name :: below =>
      ⟨.object (setField fields name value) name :: below, .commaOrEnd⟩

/-- A token where a value may stand. -/
def startValue (stack : List Frame) : Token → Option Reader
  | .scalar value => some (deliver stack value)
  | .text value => some (deliver stack (.string value))
  | .openArray => some ⟨.array [] :: stack, .itemOrEnd⟩
  | .openObject => some ⟨.object [] "" :: stack, .nameOrEnd⟩
  | _ => none

/-- The reader goes on when the innermost container may hold something. -/
def whenShallow (stack : List Frame) (next : Option Reader) : Option Reader :=
  if stack.length ≤ maxDepth then next else none

def step (reader : Reader) (token : Token) : Option Reader :=
  match reader.expecting, token, reader.stack with
  | .value, token, stack => startValue stack token
  | .itemOrEnd, .closeArray, .array items :: below => some (deliver below (.array items.reverse))
  | .itemOrEnd, token, stack => whenShallow stack (startValue stack token)
  | .nameOrEnd, .closeObject, .object fields _ :: below => some (deliver below (.object fields))
  | .nameOrEnd, .text name, .object fields _ :: below =>
      let stack := .object fields name :: below
      whenShallow stack (some ⟨stack, .colon⟩)
  | .name, .text name, .object fields _ :: below => some ⟨.object fields name :: below, .colon⟩
  | .colon, .colon, stack => some ⟨stack, .value⟩
  | .commaOrEnd, .comma, .array items :: below => some ⟨.array items :: below, .value⟩
  | .commaOrEnd, .comma, .object fields name :: below => some ⟨.object fields name :: below, .name⟩
  | .commaOrEnd, .closeArray, .array items :: below => some (deliver below (.array items.reverse))
  | .commaOrEnd, .closeObject, .object fields _ :: below => some (deliver below (.object fields))
  | _, _, _ => none

end Reader

namespace Value

def ofTokens? (tokens : List Token) : Option Value :=
  match tokens.foldlM Reader.step Reader.initial with
  | some ⟨_, .nothing value⟩ => some value
  | _ => none

/-- The value of a text. -/
def ofText? (text : List Char) : Option Value :=
  (lex? text).bind ofTokens?

/-- The value of an octet string in UTF-8. -/
def ofOctets? (octets : List UInt8) : Option Value :=
  (Text.Utf8.decode? octets).bind ofText?

end Value

end TokenFlow.Json
