/-
# TokenFlow.Advertisement -- the address that a server tells its clients

A server that is greeted under a special name answers with the base address of
its companion service in a header.  Transports hand headers over in different
shapes: names and values as text or as octets, values also in lists.  The last
address that was seen is kept; a header that is missing, empty or of another
shape changes nothing, and neither does one that cannot be decoded.
-/
import TokenFlow.Digest.Base64
import TokenFlow.Number.Amount
import TokenFlow.Text.Blank
import TokenFlow.Text.Quoted
import TokenFlow.Text.Utf8
import TokenFlow.World.Basic

namespace TokenFlow.Advertisement

set_option autoImplicit false

open TokenFlow.Number TokenFlow.Text

/-! ## Greeting -/

/-- The name to greet a server under. -/
def greetingName : String := "__discover__"

/-- The headers of the greeting. -/
def greeting (password : String) : List (String × String) :=
  [("authorization",
    "Basic " ++ Digest.Base64.encodePadded
      (Utf8.encode (greetingName ++ ":" ++ password).toList))]

/-! ## Headers -/

/-- The name of a header; names of any other kind belong to no header. -/
inductive Name where
  | text (content : String)
  | octets (content : List UInt8)
  | other
  deriving DecidableEq, Repr

/-- The value of a header, or an item of one. -/
inductive Value where
  | nothing
  | boolean (value : Bool)
  | amount (value : Amount)
  | text (content : String)
  | octets (content : List UInt8)
  | list (items : List Value)
  deriving Inhabited

/-- Headers by name, each name once. -/
abbrev Headers := List (Name × Value)

/-- A name that comes again keeps its place and takes the later value. -/
def Headers.put (headers : Headers) (name : Name) (value : Value) : Headers :=
  if headers.any (·.1 = name) then
    headers.map fun field => if field.1 = name then (name, value) else field
  else headers ++ [(name, value)]

def Headers.ofList (fields : List (Name × Value)) : Headers :=
  fields.foldl (fun headers field => headers.put field.1 field.2) []

/-- A value that is put beside the one of the same name, in any case. -/
def join (fields : List (String × String)) (name value : String) : List (String × String) :=
  let same := fun field : String × String => lowerAscii field.1.toList = lowerAscii name.toList
  if fields.any (same ·) then
    fields.map fun field => if same field then (field.1, field.2 ++ ", " ++ value) else field
  else fields ++ [(name, value)]

/-- Headers as plain text; those of one name are joined at the place of the first.
They are written in ASCII. -/
def joined (fields : List (String × String)) : Except Fault Headers :=
  if fields.all fun field => Utf8.isAscii field.1.toList && Utf8.isAscii field.2.toList then
    .ok ((fields.foldl (fun fields field => join fields field.1 field.2) []).map
      fun field => (.text field.1, .text field.2))
  else .error .notAscii

/-! ## Text of an item -/

def Value.ofBool (value : Bool) : String :=
  if value then "True" else "False"

def Value.ofAmount : Amount → String
  | .whole n => toString n
  | .real x => x.toText

mutual

/-- An item inside another one. -/
def Value.quoted : Value → String
  | .nothing => "None"
  | .boolean value => Value.ofBool value
  | .amount value => Value.ofAmount value
  | .text content => Quoted.toText content
  | .octets content => "b" ++ Quoted.octetsToText content
  | .list items => "[" ++ String.intercalate ", " (Value.quotedAll items) ++ "]"

def Value.quotedAll : List Value → List String
  | [] => []
  | item :: items => item.quoted :: Value.quotedAll items

end

/-- Octets as text, if they are UTF-8. -/
def decode (octets : List UInt8) : Except Fault String :=
  match Utf8.decode? octets with
  | some text => .ok (String.ofList text)
  | none => .error .notUtf8

/-- The text of one item. -/
def Value.item : Value → Except Fault String
  | .text content => .ok content
  | .octets content => decode content
  | value => .ok value.quoted

/-- The text of a whole value: of a list it is the first item, and a value of
another kind has none. -/
def Value.text? : Value → Except Fault (Option String)
  | .text content => .ok (some content)
  | .octets content => some <$> decode content
  | .list (first :: _) => some <$> first.item
  | .list [] | .nothing | .boolean _ | .amount _ => .ok none

/-! ## The advertised address -/

/-- The header that holds the address. -/
def headerName : String := "x-gizmosql-oauth-url"

/-- Whether this is the name of the header, in any case. -/
def Name.isHeader : Name → Except Fault Bool
  | .text content => .ok (lowerAscii content.toList = headerName.toList)
  | .octets content => do
      let decoded ← decode content
      pure (lowerAscii decoded.toList = headerName.toList)
  | .other => .ok false

/-- The text of the first header of that name. -/
def find? : Headers → Except Fault (Option String)
  | [] => .ok none
  | (name, value) :: rest => do
      if ← name.isHeader then value.text? else find? rest

/-- The last address that was seen. -/
abbrev Latest := Option String

/-- Takes the address from headers, if they have one. -/
def observe (headers : Headers) : Act Latest Unit := do
  match nonempty? (← Act.lift (find? headers)) with
  | some url => Act.update fun _ => some url
  | none => pure ()

end TokenFlow.Advertisement
