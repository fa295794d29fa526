/-
# TokenFlow.Callback.Request -- a request as octets

What arrives at a listener is any octets at all.  `read` takes the request line
up to the first line end, as Latin-1, and divides it into words: a method, a
target and a protocol version (which may be missing for `GET`).  Everything else
is refused with a status before a target is looked at.  Several slashes at the
start of a target count as one.  HTTP/0.9, which is what a line without a version
speaks, knows neither statuses nor headers: its answers are bodies alone.
-/
import TokenFlow.Number.Numeral
import TokenFlow.Text.Blank
import TokenFlow.Text.Cut
import TokenFlow.Text.Latin1
import TokenFlow.Text.Quoted
import TokenFlow.Text.Utf8

namespace TokenFlow.Callback

set_option autoImplicit false

open TokenFlow.Number TokenFlow.Text

/-- A request refused before its target is looked at. -/
structure Rejection where
  status : Nat
  reason : String
  deriving DecidableEq, Repr

/-- How an answer is written. -/
inductive Framing where
  /-- A status line and headers before the body. -/
  | headed
  /-- The body, and nothing else. -/
  | bodyOnly
  deriving DecidableEq, Repr

/-- What the octets of a request amount to. -/
inductive Reading where
  /-- No request line at all: there is no answer. -/
  | silent
  | rejected (line : String) (framing : Framing) (rejection : Rejection)
  | target (line : String) (framing : Framing) (target : String)
  deriving DecidableEq, Repr

namespace Request

/-- The octets of a `GET` request for a target. -/
def get (target : String) : List UInt8 :=
  Utf8.encode ("GET ".toList ++ target.toList ++ " HTTP/1.1\r\nHost: 127.0.0.1\r\n\r\n".toList)

/-- The longest line that is read, in octets with its end. -/
def maxLine : Nat := 65536

/-- The most header lines, the empty one included. -/
def maxHeaders : Nat := 100

/-- The octets of the first line, with its end, and the octets after it. -/
def splitLine (octets : List UInt8) : List UInt8 × List UInt8 :=
  let before := octets.takeWhile (· ≠ 10)
  match octets.dropWhile (· ≠ 10) with
  | lineFeed :: rest => (before ++ [lineFeed], rest)
  | [] => (before, [])

/-! ## Protocol version -/

/-- The two numbers of `HTTP/<major>.<minor>`. -/
def version? (word : List Char) : Option (Int × Int) :=
  match word with
  | 'H' :: 'T' :: 'T' :: 'P' :: '/' :: numbers =>
      match pieces '.' numbers with
      | [major, minor] =>
          match Numeral.read? major, Numeral.read? minor with
          | some a, some b => some (a, b)
          | _, _ => none
      | _ => none
  | _ => none

/-- How a request with a version is answered. -/
def framingOf (version : List Char) : Framing :=
  if version = "HTTP/0.9".toList then .bodyOnly else .headed

/-- The refusal of the last word of a line of three or more, if it is no version
below two. -/
def versionRejection? (word : List Char) : Option Rejection :=
  match version? word with
  | none => some ⟨400, "Bad request version (" ++ Quoted.toText (String.ofList word) ++ ")"⟩
  | some (major, minor) =>
      if 2 < major ∨ (major = 2 ∧ 0 ≤ minor) then
        some ⟨505, "Invalid HTTP version (" ++ String.ofList (word.drop 5) ++ ")"⟩
      else none

/-! ## Header lines -/

/-- The refusal of the lines after the request line, if any: one is too long, or
there are too many before the empty one. -/
def headersRejection? (octets : List UInt8) (count : Nat) : Option Rejection :=
  let (line, rest) := splitLine octets
  if maxLine < line.length then some ⟨431, "Line too long"⟩
  else
    match count with
    | 0 => some ⟨431, "Too many headers"⟩
    | count + 1 =>
        if line = [13, 10] ∨ line = [10] ∨ line = [] then none
        else headersRejection? rest count

/-! ## Reading -/

/-- Several slashes at the start count as one. -/
def collapseSlashes (target : List Char) : List Char :=
  match target with
  | '/' :: '/' :: rest => '/' :: rest.dropWhile (· = '/')
  | target => target

/-- The words of a request line, or its refusal.  A version that is refused does not
count for the framing of the refusal. -/
def readWords (line : String) (words : List (List Char)) (headers : List UInt8) : Reading :=
  let badSyntax : Rejection := ⟨400, "Bad request syntax (" ++ Quoted.toText line ++ ")"⟩
  let proceed (framing : Framing) (method target : List Char) : Reading :=
    match headersRejection? headers maxHeaders with
    | some rejection => .rejected line framing rejection
    | none =>
        if method = "GET".toList then
          .target line framing (String.ofList (collapseSlashes target))
        else
          .rejected line framing
            ⟨501, "Unsupported method (" ++ Quoted.toText (String.ofList method) ++ ")"⟩
  match words with
  | [] => .silent
  | [_] => .rejected line .bodyOnly badSyntax
  | [method, target] =>
      if method = "GET".toList then proceed .bodyOnly method target
      else
        .rejected line .bodyOnly
          ⟨400, "Bad HTTP/0.9 request type (" ++ Quoted.toText (String.ofList method) ++ ")"⟩
  | method :: target :: more =>
      let version := more.getLast?.getD []
      match versionRejection? version with
      | some rejection => .rejected line .bodyOnly rejection
      | none =>
          if more.length = 1 then proceed (framingOf version) method target
          else .rejected line (framingOf version) badSyntax

def read (octets : List UInt8) : Reading :=
  let (line, headers) := splitLine octets
  if maxLine < line.length then .rejected "" .headed ⟨414, "Request-URI Too Long"⟩
  else
    let text := trimRight (fun c => c = '\r' ∨ c = '\n') (Latin1.decode line)
    readWords (String.ofList text) (words isSeparator text) headers

end Request

end TokenFlow.Callback
