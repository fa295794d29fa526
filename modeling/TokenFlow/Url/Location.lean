/-
# TokenFlow.Url.Location -- addresses that requests go to

Reading an address for a request is stricter about characters and the port than
`Url.split`, and brings the address into one form: scheme and host in small
letters, a host outside ASCII in its ASCII spelling, the usual port left out, dot
segments removed, and characters that may not stand in an address escaped.
`redirect` is the address that a redirect from one location to another leads to,
and `requested` the one that a request really goes to.
-/
import TokenFlow.Host.Name
import TokenFlow.Number.Numeral
import TokenFlow.Text.Percent
import TokenFlow.Text.Quoted
import TokenFlow.Text.TitleCase
import TokenFlow.Url.Reference

namespace TokenFlow.Url

set_option autoImplicit false

open TokenFlow.Number TokenFlow.Text

/-- An address in the form in which requests use it. -/
structure Location where
  scheme : List Char
  user : List Char
  host : List Char
  port : Option Int
  path : List Char
  query : Option (List Char)
  fragment : Option (List Char)
  deriving DecidableEq, Repr

/-- Why nothing can be sent to an address. -/
inductive LocationError where
  | malformed (reason : String)
  /-- The host is spelled like an international one, and is none. -/
  | hostName (cause : Host.LabelError)
  /-- The host cannot be written in ASCII. -/
  | notAscii
  /-- A reference cannot be joined with its base. -/
  | reference (cause : UrlError)
  deriving DecidableEq, Repr

namespace Location

/-- The longest address, and the longest part of one, that is read. -/
def maxLength : Nat := 65536

/-! ## Characters -/

/-- ASCII that can be printed. -/
def isVisible (c : Char) : Bool :=
  0x20 ≤ c.toNat && c.toNat < 0x7F

def isControl (c : Char) : Bool :=
  c.toNat < 0x20 || c.toNat == 0x7F

def escapeUnless (safe : Char → Bool) (text : List Char) : List Char :=
  text.flatMap fun c => if safe c then [c] else (Utf8.encodeChar c).flatMap Percent.escape

def isQuerySafe (c : Char) : Bool :=
  isVisible c && !" \"#<>".toList.contains c

def isFragmentSafe (c : Char) : Bool :=
  isVisible c && !" \"<>`".toList.contains c

def isPathSafe (c : Char) : Bool :=
  isQuerySafe c && !"?`\x7b\x7d".toList.contains c

def isUserSafe (c : Char) : Bool :=
  isPathSafe c && !"/;=@[\\]^|".toList.contains c

def isHostSafe (c : Char) : Bool :=
  isVisible c && !" <>@[]^:".toList.contains c

/-! ## Host and port -/

/-- The port that an address need not name, by the scheme as it is spelled. -/
def usualPort? (scheme : List Char) : Option Int :=
  match String.ofList scheme with
  | "ftp" => some 21
  | "http" | "ws" => some 80
  | "https" | "wss" => some 443
  | _ => none

/-- The port when it is given and not the usual one. -/
def port? (scheme text : List Char) : Except String (Option Int) :=
  if text = [] then .ok none
  else
    match Numeral.read? text with
    | none => .error ("Invalid port: " ++ Quoted.toText (String.ofList text))
    | some number => .ok (if usualPort? scheme = some number then none else some number)

/-- Four numbers with dots between them, of whatever size. -/
def looksDotted (host : List Char) : Bool :=
  let parts := pieces '.' host
  parts.length == 4 && parts.all fun part => part ≠ [] && part.all Address.isDecimal

/-- The host in its one form; brackets are dropped here and put back in writing. -/
def hostName (host : List Char) : Except String (List Char) :=
  if looksDotted host then
    if Address.isDotted host then .ok host
    else .error ("Invalid IPv4 address: " ++ Quoted.toText (String.ofList host))
  else if host.head? = some '[' ∧ host.getLast? = some ']' then
    let inner := (host.drop 1).dropLast
    if Address.isSixthZoned inner then .ok inner
    else .error ("Invalid IPv6 address: " ++ Quoted.toText (String.ofList host))
  else if Utf8.isAscii host then .ok (escapeUnless isHostSafe (lowerAscii host))
  else
    match Host.Name.toAscii (lowerCase host) with
    | .ok spelling => .ok spelling
    | .error _ => .error ("Invalid IDNA hostname: " ++ Quoted.toText (String.ofList host))

/-- User, host and port texts of an authority. -/
def splitAuthority (authority : List Char) : List Char × List Char × List Char :=
  let (user, rest) := (cutLast? '@' authority).getD ([], authority)
  let bracketed : Option (List Char × List Char) :=
    if rest.head? = some '[' then
      (cutLast? ']' rest).map fun (inner, after) => (inner ++ [']'], after)
    else none
  let (host, after) :=
    bracketed.getD (rest.takeWhile (· ≠ ':'), rest.dropWhile (· ≠ ':'))
  (user, host, if after.head? = some ':' then after.drop 1 else after)

/-! ## Path -/

/-- Removes `.` segments and takes `..` back to the segment before. -/
def removeDots (path : List Char) : List Char :=
  let segments := pieces '/' path
  if segments.contains ['.'] ∨ segments.contains ['.', '.'] then
    let kept := segments.foldl (fun (output : List (List Char)) segment =>
      if segment = ['.'] then output
      else if segment = ['.', '.'] then
        (if output = [] ∨ output = [[]] then output else output.dropLast)
      else output ++ [segment]) []
    List.intercalate ['/'] kept
  else path

/-- The refusal of a path that would be read as something else. -/
def pathError? (path : List Char) (absolute located : Bool) : Option String :=
  if located then
    if path ≠ [] ∧ path.head? ≠ some '/' then
      some "For absolute URLs, path must be empty or begin with '/'"
    else none
  else if absolute then none
  else if path.take 2 = ['/', '/'] then some "Relative URLs cannot have a path starting with '//'"
  else if path.head? = some ':' then some "Relative URLs cannot have a path starting with ':'"
  else none

/-! ## Reading -/

/-- The parts of an address as they are spelled. -/
structure Spelling where
  scheme : List Char
  authority : List Char
  path : List Char
  query : Option (List Char)
  fragment : Option (List Char)

/-- The scheme may be empty, and still have its colon. -/
def Spelling.ofText (text : List Char) : Spelling :=
  let (scheme, afterScheme) :=
    match text with
    | ':' :: rest => ([], rest)
    | text => (splitScheme? text).getD ([], text)
  let (authority, afterAuthority) := splitLocation afterScheme
  let (beforeFragment, fragment) := cut '#' afterAuthority
  let (path, query) := cut '?' beforeFragment
  ⟨scheme, authority, path, query, fragment⟩

/-- The location that is spelled.  A host that is given counts instead of the one in
the authority. -/
def ofSpelling (spelling : Spelling) (host : Option (List Char)) : Except String Location := do
  let (user, ownHost, portText) := splitAuthority spelling.authority
  let host ← hostName (host.getD ownHost)
  let port ← port? spelling.scheme portText
  let absolute := spelling.scheme ≠ []
  let located := user ≠ [] ∨ host ≠ [] ∨ port.isSome
  match pathError? spelling.path absolute located with
  | some error => throw error
  | none => pure ()
  return {
    scheme := lowerAscii spelling.scheme
    host, port
    user := escapeUnless isUserSafe user
    path := escapeUnless isPathSafe
      (if absolute ∨ located then removeDots spelling.path else spelling.path)
    query := spelling.query.map (escapeUnless isQuerySafe)
    fragment := spelling.fragment.map (escapeUnless isFragmentSafe) }

/-- A text as a location, or why no request can go there. -/
def read (text : List Char) : Except String Location := do
  if maxLength < text.length then throw "URL too long"
  match text.zipIdx.find? fun (c, _) => isControl c with
  | some (c, index) =>
      throw ("Invalid non-printable ASCII character in URL, "
        ++ Quoted.toText (String.ofList [c]) ++ " at position " ++ toString index ++ ".")
  | none => ofSpelling (Spelling.ofText text) none

/-! ## Writing -/

/-- A numeric host with colons stands in brackets. -/
def bracketed (host : List Char) : List Char :=
  if host.contains ':' then '[' :: host ++ [']'] else host

def authority (location : Location) : List Char :=
  (if location.user = [] then [] else location.user ++ ['@'])
    ++ bracketed location.host
    ++ (match location.port with
        | none => []
        | some port => ':' :: (toString port).toList)

def text (location : Location) : List Char :=
  (if location.scheme = [] then [] else location.scheme ++ [':'])
    ++ (if location.authority = [] then [] else '/' :: '/' :: location.authority)
    ++ location.path
    ++ (match location.query with
        | none => []
        | some query => '?' :: query)
    ++ (match location.fragment with
        | none => []
        | some fragment => '#' :: fragment)

def toText (location : Location) : String :=
  String.ofList location.text

/-! ## Changing parts -/

def toSpelling (location : Location) : Spelling :=
  ⟨location.scheme, location.authority, location.path, location.query, location.fragment⟩

def isReadable (part : List Char) : Bool :=
  part.length ≤ maxLength && !part.any isControl

/-- The location of a spelling that was put together from others. -/
def rebuild (spelling : Spelling) (host : Option (List Char)) : Except LocationError Location :=
  if isReadable spelling.path && spelling.query.all isReadable && spelling.fragment.all isReadable
  then (ofSpelling spelling host).mapError .malformed
  else .error (.malformed "Invalid URL component")

/-! ## Requests -/

def isAbsolute (location : Location) : Bool :=
  location.scheme ≠ [] && location.host ≠ []

/-- The host as people read it. -/
def readableHost (location : Location) : Except LocationError (List Char) :=
  if Host.Label.asciiMark.isPrefixOf location.host then
    (Host.Name.ofAscii location.host).mapError .hostName
  else .ok location.host

/-- The location, when its host can be named in a request. -/
def named (location : Location) : Except LocationError Location := do
  let _ ← location.readableHost
  if Utf8.isAscii location.host then pure location else throw .notAscii

/-- Where a request for an address goes.  One that is not absolute keeps its path and
query alone. -/
def requested (url : String) : Except LocationError Location := do
  let location ← (read url.toList).mapError .malformed
  if location.isAbsolute then named location
  else
    rebuild ⟨[], [], '/' :: location.path.dropWhile (· = '/'), location.query, none⟩ none

/-- The text of a location that nothing tells the kind of: there is no colon behind
a first word.  A fragment does not count, and an empty one is not told. -/
def kindlessText? (location : Location) : Option String :=
  let (main, fragment) :=
    match cutLast? '#' location.text with
    | some (main, fragment) => (main, fragment)
    | none => (location.text, [])
  let isFirst := fun c : Char => c ≠ '/' && c ≠ ':'
  if main.takeWhile isFirst ≠ [] ∧ (main.dropWhile isFirst).head? = some ':' then none
  else some (String.ofList (if fragment = [] then main else location.text))

/-! ## Redirection -/

/-- A target with a scheme and no host has the host of the base, but not its port. -/
def withHostOf (base target : Location) : Except LocationError Location := do
  if target.scheme = [] then pure target
  else
    let _ ← target.readableHost
    if target.host = [] then rebuild target.toSpelling (bracketed (← base.readableHost))
    else pure target

/-- A target that is not absolute is a reference. -/
def completed (base target : Location) : Except LocationError Location := do
  if target.isAbsolute then pure target
  else
    let joined ← (Reference.join base.text target.text).mapError .reference
    (read joined).mapError .malformed

/-- The fragment of the base is kept when the target has none, with its escapes read. -/
def withFragmentOf (base target : Location) : Except LocationError Location :=
  let kept := Percent.decode (base.fragment.getD [])
  if kept ≠ [] ∧ target.fragment.getD [] = [] then
    rebuild { target.toSpelling with fragment := some kept } none
  else .ok target

/-- Where a redirect from `base` to `target` leads. -/
def redirect (base target : Location) : Except LocationError Location := do
  named (← base.withFragmentOf (← base.completed (← base.withHostOf target)))

end Location

end TokenFlow.Url
