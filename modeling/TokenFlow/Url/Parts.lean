/-
# TokenFlow.Url.Parts -- the six parts of an address

`split` reads any text as an address: scheme, network location, path, path
parameters, query and fragment.  Leading controls and blanks are dropped, and
tabs and line ends are dropped everywhere, before anything is looked at.  Only
the network location can be refused, for two reasons: its brackets do not
enclose a numeric address, or it hides an address mark (`UrlError`).
-/
import TokenFlow.Text.Blank
import TokenFlow.Text.Compatibility
import TokenFlow.Text.Cut
import TokenFlow.Url.Address

namespace TokenFlow.Url

set_option autoImplicit false

open TokenFlow.Text

/-- Why a text is no address. -/
inductive UrlError where
  /-- Brackets without a partner, or text around them. -/
  | brackets
  /-- A dotted address stands between the brackets. -/
  | bracketedDotted
  /-- A future address form is malformed. -/
  | bracketedFuture
  /-- What stands between the brackets is no numeric address. -/
  | bracketedName (host : String)
  /-- Normalization would bring out an address mark. -/
  | hiddenMark (location : String)
  deriving DecidableEq, Repr

/-- The parts of an address; an absent part is empty. -/
structure Parts where
  scheme : List Char
  location : List Char
  path : List Char
  parameters : List Char
  query : List Char
  fragment : List Char
  deriving DecidableEq, Repr

/-! ## Clean text -/

/-- A control character of the first block, or a space. -/
def isLeadingNoise (c : Char) : Bool :=
  c.toNat ≤ 0x20

/-- A character that is dropped wherever it stands. -/
def isDropped (c : Char) : Bool :=
  c == '\t' || c == '\n' || c == '\r'

def clean (text : List Char) : List Char :=
  (text.dropWhile isLeadingNoise).filter (!isDropped ·)

/-! ## Scheme and network location -/

def isSchemeChar (c : Char) : Bool :=
  c.isAlphanum || c == '+' || c == '-' || c == '.'

/-- The scheme as it is spelled and the rest; no scheme when the text before the
first colon is not one. -/
def splitScheme? (text : List Char) : Option (List Char × List Char) :=
  match cut ':' text with
  | (first :: more, some rest) =>
      if first.isAlpha && more.all isSchemeChar then some (first :: more, rest) else none
  | _ => none

def endsLocation (c : Char) : Bool :=
  c == '/' || c == '?' || c == '#'

/-- The network location after `//`, and the rest. -/
def splitLocation : List Char → List Char × List Char
  | '/' :: '/' :: rest =>
      (rest.takeWhile (!endsLocation ·), rest.dropWhile (!endsLocation ·))
  | text => ([], text)

/-- What stands after the last `@`. -/
def withoutUser (location : List Char) : List Char :=
  match cutLast? '@' location with
  | some (_, host) => host
  | none => location

/-- The refusal of what stands between brackets, if any. -/
def bracketedError? (host : List Char) : Option UrlError :=
  if host.head? = some 'v' then
    if Address.isFuture host then none else some .bracketedFuture
  else if Address.isDotted host then some .bracketedDotted
  else if Address.isSixthZoned host then none
  else some (.bracketedName (String.ofList host))

/-- The refusal of the brackets of a network location, if any: both kinds or
none, no text before the opening one, and a port or nothing after the closing one. -/
def bracketsError? (location : List Char) : Option UrlError :=
  if location.contains '[' != location.contains ']' then some .brackets
  else if !location.contains '[' then none
  else
    match cut '[' (withoutUser location) with
    | (before, some bracketed) =>
        let (host, after) := cut ']' bracketed
        match before, after with
        | [], none | [], some [] | [], some (':' :: _) => bracketedError? host
        | _, _ => some .brackets
    | (_, none) => bracketedError? (cut ':' (withoutUser location)).1

/-- The refusal of a network location, if any. -/
def locationError? (location : List Char) : Option UrlError :=
  match bracketsError? location with
  | some error => some error
  | none => if hidesAddressMark location then some (.hiddenMark (String.ofList location)) else none

/-! ## Path parameters -/

/-- The schemes whose paths may carry parameters. -/
def parameterSchemes : List String :=
  ["", "ftp", "hdl", "prospero", "http", "imap", "https", "shttp", "rtsp", "rtspu", "sip", "sips",
    "mms", "sftp", "tel"]

/-- The path up to the first `;` of its last segment, and the text after that. -/
def splitParameters (path : List Char) : List Char × List Char :=
  let segment := (path.reverse.takeWhile (· ≠ '/')).reverse
  let (name, parameters) := cut ';' segment
  (path.take (path.length - segment.length) ++ name, parameters.getD [])

/-! ## All parts -/

/-- The parts of a text that is already clean.  An address without a scheme has the
one that is usual where it stands. -/
def splitClean (usual text : List Char) : Except UrlError Parts :=
  let (scheme, afterScheme) :=
    match splitScheme? text with
    | some (spelling, rest) => (lowerAscii spelling, rest)
    | none => (usual, text)
  let (location, afterLocation) := splitLocation afterScheme
  match locationError? location with
  | some error => .error error
  | none =>
      let (beforeFragment, fragment) := cut '#' afterLocation
      let (path, query) := cut '?' beforeFragment
      let (path, parameters) :=
        if parameterSchemes.contains (String.ofList scheme) then splitParameters path
        else (path, [])
      .ok { scheme, location, path, parameters,
            query := query.getD [], fragment := fragment.getD [] }

def split (text : String) : Except UrlError Parts :=
  splitClean [] (clean text.toList)

end TokenFlow.Url
