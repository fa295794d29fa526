/-
# TokenFlow.CommandLine.Arguments -- what is written after the command

Every argument is first read by itself: it is a value, a parameter (which may be
shortened as long as it stays unambiguous, and may have a text attached to it),
an unknown parameter, or the mark that ends the parameters.  The line is then
consumed from the left; a parameter that needs a value takes the next argument
if that one is a value.  Later parameters win over earlier ones.
-/
import TokenFlow.Configuration
import TokenFlow.Text.DecimalDigit

namespace TokenFlow.CommandLine

set_option autoImplicit false

open TokenFlow.Text

/-! ## Parameters -/

inductive Parameter where
  | help
  | flow
  | issuer
  | authorizationUrl
  | tokenUri
  | clientId
  | clientSecret
  | scope
  | serverUrl
  | insecure
  | verbose
  deriving DecidableEq, Repr

namespace Parameter

/-- All parameters, in the order in which they are listed. -/
def all : List Parameter :=
  [.help, .flow, .issuer, .authorizationUrl, .tokenUri, .clientId, .clientSecret, .scope,
    .serverUrl, .insecure, .verbose]

/-- The spellings of a parameter. -/
def names : Parameter → List String
  | .help => ["-h", "--help"]
  | .flow => ["--flow"]
  | .issuer => ["--issuer"]
  | .authorizationUrl => ["--authorization-url"]
  | .tokenUri => ["--token-uri"]
  | .clientId => ["--client-id"]
  | .clientSecret => ["--client-secret"]
  | .scope => ["--scope"]
  | .serverUrl => ["--oauth-server-url"]
  | .insecure => ["--insecure"]
  | .verbose => ["-v", "--verbose"]

/-- Whether a value follows. -/
def takesValue : Parameter → Bool
  | .help | .insecure | .verbose => false
  | _ => true

/-- The name of a parameter in a message. -/
def label (parameter : Parameter) : String :=
  String.intercalate "/" parameter.names

def named : List (String × Parameter) :=
  all.flatMap fun parameter => parameter.names.map fun name => (name, parameter)

def ofName? (name : String) : Option Parameter :=
  named.lookup name

end Parameter

/-- Why a command line cannot be used. -/
inductive Misuse where
  | ambiguous (argument : String) (candidates : List String)
  | valueMissing (parameter : Parameter)
  /-- A text is attached to a parameter that takes none. -/
  | valueIgnored (parameter : Parameter) (text : String)
  | unrecognized (arguments : List String)
  deriving DecidableEq, Repr

def Misuse.message : Misuse → String
  | .ambiguous argument candidates =>
      "ambiguous option: " ++ argument ++ " could match " ++ String.intercalate ", " candidates
  | .valueMissing parameter => "argument " ++ parameter.label ++ ": expected one argument"
  | .valueIgnored parameter text =>
      "argument " ++ parameter.label ++ ": ignored explicit argument " ++ Quoted.toText text
  | .unrecognized arguments => "unrecognized arguments: " ++ String.intercalate " " arguments

/-! ## One argument -/

inductive Argument where
  | value (text : String)
  /-- A parameter as it was spelled, and the text attached to it. -/
  | known (parameter : Parameter) (name : String) (attached : Option String)
  | unknown (text : String)
  /-- Everything after it is a value. -/
  | endOfParameters
  deriving DecidableEq, Repr

namespace Argument

def endMark : String := "--"

/-- The text before the first equals sign, and the text after it if there is one. -/
def splitAttached (text : List Char) : String × Option String :=
  let (name, attached) := cut '=' text
  (String.ofList name, attached.map String.ofList)

/-- The parameters that an argument with two hyphens can stand for. -/
def longCandidates (text : List Char) : List Argument :=
  let (name, attached) := splitAttached text
  Parameter.named.filterMap fun (full, parameter) =>
    if name.toList.isPrefixOf full.toList then some (.known parameter full attached) else none

/-- The parameters that an argument with one hyphen can stand for: one letter,
with more letters or a text right behind it. -/
def shortCandidates (text : List Char) : List Argument :=
  Parameter.named.filterMap fun (full, parameter) =>
    if full.toList = text.take 2 then
      some (.known parameter full (some (String.ofList (text.drop 2))))
    else if text.isPrefixOf full.toList then some (.known parameter full none)
    else none

def candidates (text : List Char) : List Argument :=
  if ['-', '-'].isPrefixOf text then longCandidates text else shortCandidates text

/-- A hyphen and decimal digits, perhaps with a point among them, perhaps with a
line end behind them. -/
def looksNegative (text : List Char) : Bool :=
  let digits := fun text : List Char => !text.isEmpty && text.all isDecimalDigit
  let body := fun text : List Char =>
    match cut '.' text with
    | (whole, none) => digits whole
    | (whole, some fraction) => whole.all isDecimalDigit && digits fraction
  match text with
  | '-' :: rest => body rest || (rest.getLast? = some '\n' && body rest.dropLast)
  | _ => false

/-- Reads an argument that starts with a hyphen and is no full name. -/
def readShortened (text : List Char) : Except Misuse Argument :=
  match candidates text with
  | [argument] => .ok argument
  | [] =>
      .ok (if looksNegative text || text.contains ' ' then .value (String.ofList text)
        else .unknown (String.ofList text))
  | several =>
      .error (.ambiguous (String.ofList text) (several.filterMap fun
        | .known _ name _ => some name
        | _ => none))

/-- Reads an argument. -/
def read (text : String) : Except Misuse Argument :=
  match text.toList with
  | '-' :: _ :: _ =>
      match Parameter.ofName? text with
      | some parameter => .ok (.known parameter text none)
      | none =>
          match splitAttached text.toList with
          | (name, some attached) =>
              match Parameter.ofName? name with
              | some parameter => .ok (.known parameter name (some attached))
              | none => readShortened text.toList
          | (_, none) => readShortened text.toList
  | _ => .ok (.value text)

/-- Reads the arguments of a line. -/
def readAll : List String → Except Misuse (List Argument)
  | [] => .ok []
  | text :: rest =>
      if text = endMark then .ok (.endOfParameters :: rest.map .value)
      else do
        let argument ← read text
        pure (argument :: (← readAll rest))

end Argument

/-! ## A line -/

/-- What a line says. -/
structure Arguments where
  settings : Settings
  verbose : Bool
  /-- What belongs to no parameter. -/
  rest : List String
  deriving DecidableEq, Repr

namespace Arguments

def empty : Arguments := ⟨Settings.default, false, []⟩

/-- Why reading a line ends early. -/
inductive Stop where
  | help
  | misuse (cause : Misuse)
  deriving DecidableEq, Repr

/-- Gives a parameter its value. -/
def assign (arguments : Arguments) (parameter : Parameter) (value : String) : Arguments :=
  let settings := arguments.settings
  match parameter with
  | .flow => { arguments with settings := { settings with flow := some value } }
  | .issuer => { arguments with settings := { settings with issuer := some value } }
  | .authorizationUrl =>
      { arguments with settings := { settings with authorizationUrl := some value } }
  | .tokenUri => { arguments with settings := { settings with tokenUri := some value } }
  | .clientId => { arguments with settings := { settings with clientId := some value } }
  | .clientSecret => { arguments with settings := { settings with clientSecret := some value } }
  | .scope => { arguments with settings := { settings with scope := some value } }
  | .serverUrl => { arguments with settings := { settings with serverUrl := some value } }
  | .help | .insecure | .verbose => arguments

/-- Turns on a parameter without a value. -/
def turnOn (arguments : Arguments) (parameter : Parameter) : Except Stop Arguments :=
  match parameter with
  | .help => .error .help
  | .insecure =>
      .ok { arguments with settings := { arguments.settings with disableVerification := true } }
  | .verbose => .ok { arguments with verbose := true }
  | _ => .ok arguments

/-- The parameters that are written behind one hyphen, from the second one on. -/
def cluster (previous : Parameter) : List Char → Except Misuse (List Parameter)
  | [] => .ok []
  | letter :: rest =>
      match Parameter.ofName? (String.ofList ['-', letter]) with
      | some parameter => (parameter :: ·) <$> cluster parameter rest
      | none => .error (.valueIgnored previous (String.ofList (letter :: rest)))

/-- The value in an attached text: the end mark is dropped, and leaves nothing. -/
def attachedValue (attached : String) : String :=
  if attached = Argument.endMark then "" else attached

/-- Uses a parameter with a text attached to it. -/
def useAttached (arguments : Arguments) (parameter : Parameter) (name attached : String) :
    Except Stop Arguments :=
  if parameter.takesValue then .ok (arguments.assign parameter (attachedValue attached))
  else if ['-', '-'].isPrefixOf name.toList || attached = "" then
    .error (.misuse (.valueIgnored parameter attached))
  else do
    let more ← (cluster parameter attached.toList).mapError Stop.misuse
    (parameter :: more).foldlM turnOn arguments

def leave (arguments : Arguments) (text : String) : Arguments :=
  { arguments with rest := arguments.rest ++ [text] }

/-- Consumes a line from the left. -/
def consume (arguments : Arguments) : List Argument → Except Stop Arguments
  | [] => .ok arguments
  | .known parameter name (some attached) :: rest => do
      consume (← arguments.useAttached parameter name attached) rest
  | .known parameter _ none :: rest =>
      if parameter.takesValue then
        match rest with
        | .value text :: rest => consume (arguments.assign parameter text) rest
        | _ => .error (.misuse (.valueMissing parameter))
      else do
        consume (← arguments.turnOn parameter) rest
  | .value text :: rest | .unknown text :: rest => consume (arguments.leave text) rest
  | .endOfParameters :: rest => consume (arguments.leave Argument.endMark) rest

/-- Reads a line. -/
def read (line : List String) : Except Stop Arguments := do
  let arguments ← empty.consume (← (Argument.readAll line).mapError Stop.misuse)
  if arguments.rest.isEmpty then pure arguments
  else throw (.misuse (.unrecognized arguments.rest))

end Arguments

end TokenFlow.CommandLine
