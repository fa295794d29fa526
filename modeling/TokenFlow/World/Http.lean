/-
# TokenFlow.World.Http -- requests, responses and clients

The vocabulary of the network: what is sent, what comes back, and how a client
is set up.  A response body may be compressed as its `Content-Encoding` says, and
is text in the encoding its `Content-Type` names: Latin-1, or whatever else the
client has a codec for, or else UTF-8 read leniently.
-/
import TokenFlow.Compressed.Coding
import TokenFlow.Failure
import TokenFlow.Text.Blank
import TokenFlow.Text.Latin1
import TokenFlow.Text.Utf8
import TokenFlow.World.ContentType

namespace TokenFlow.Http

set_option autoImplicit false

open TokenFlow.Number TokenFlow.Text

inductive Method where
  | get
  | post
  deriving DecidableEq, Repr

def Method.name : Method → String
  | .get => "GET"
  | .post => "POST"

/-- Fields of a form, in order. -/
abbrev Form := List (String × String)

structure Request where
  method : Method
  url : String
  form : Option Form
  /-- The headers set on purpose, with names in small letters. -/
  headers : List (String × String)
  deriving DecidableEq, Repr

namespace Request

def get (url : String) : Request :=
  ⟨.get, url, none, []⟩

def post (url : String) (form : Form) (headers : List (String × String)) : Request :=
  ⟨.post, url, some form, headers⟩

end Request

/-- How a client is set up: redirects are always followed. -/
structure Client where
  timeout : Amount
  verify : Bool
  deriving DecidableEq, Repr

/-- Ten seconds, unless the caller says otherwise. -/
def Client.create (timeout : Option Amount) (verify : Bool) : Client :=
  ⟨timeout.getD 10, verify⟩

/-- How a client reads octets in some encoding.  A codec that is not for text raises. -/
abbrev Codec := List UInt8 → Except Foreign (List Char)

structure Response where
  status : Nat
  headers : List (String × String)
  body : List UInt8
  /-- What the client has for the encoding in the `Content-Type`, when that is one it knows
  and neither Latin-1 nor UTF-8. -/
  codec : Option Codec := none

namespace Response

/-- Headers are written in ASCII. -/
def isWritable (response : Response) : Bool :=
  response.headers.all fun (name, value) => Utf8.isAscii name.toList && Utf8.isAscii value.toList

/-- The value of a header, whatever the case of its name. -/
def header? (response : Response) (name : String) : Option String :=
  match response.headers.filter fun (key, _) => lowerAscii key.toList = lowerAscii name.toList with
  | [] => none
  | fields => some (String.intercalate ", " (fields.map (·.2)))

/-- How the body is compressed; names of other codings do not count. -/
def codings (response : Response) : List Compressed.Coding :=
  (pieces ',' ((response.header? "content-encoding").getD "").toList).filterMap fun name =>
    Compressed.Coding.ofName? (String.ofList (lowerAscii (trim isSeparator name)))

/-- The response with its body as it was before it was compressed. -/
def plain (response : Response) : Except Compressed.Flaw Response :=
  (Compressed.Coding.decodeAll response.codings response.body).map fun body =>
    { response with body }

/-- The name of an encoding: its words in small letters, whatever stands between them.
A name outside ASCII names nothing. -/
def encodingWords (name : List Char) : List String :=
  if Utf8.isAscii name then (words (!·.isAlphanum) (lowerAscii name)).map String.ofList else []

/-- The name of the encoding in the `Content-Type`. -/
def charset? (response : Response) : Option (List Char) :=
  (response.header? "content-type").bind fun contentType =>
    ContentType.parameter? "charset".toList contentType.toList

/-- The words of the names of Latin-1. -/
def latin1Names : List (List String) :=
  [["iso", "8859", "1"], ["iso8859", "1"], ["iso", "8859", "1", "1987"], ["8859"],
    ["latin", "1"], ["latin1"], ["latin"], ["l1"], ["cp819"], ["ibm819"], ["csisolatin1"],
    ["iso", "ir", "100"]]

def isLatin1 (response : Response) : Bool :=
  response.charset?.any fun name => latin1Names.contains (encodingWords name)

/-- The body as text, if the codec for it is one for text.  No codec is asked about no
octets. -/
def text (response : Response) : Except Foreign String :=
  String.ofList <$>
    if response.body = [] then .ok []
    else if response.isLatin1 then .ok (Latin1.decode response.body)
    else
      match response.codec with
      | some read => read response.body
      | none => .ok (Utf8.decode response.body)

end Response

/-- What the network gives for one request. -/
inductive Reply where
  | response (response : Response)
  /-- A transport failure, with its description. -/
  | failure (detail : String)

/-- The description of a failure to reach anyone. -/
def unansweredText : String := "no scripted response"

end TokenFlow.Http
