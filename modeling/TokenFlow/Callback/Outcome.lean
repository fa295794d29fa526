/-
# TokenFlow.Callback.Outcome -- what a redirect decides

A redirect ends a login in one way: with a code, or with an error of one of four
kinds.  `judge` decides which, from the parameters of the redirect: an error of
the issuer counts first, then the state must be the expected one, and only then
is the code looked at.  `exception` is the failure that a caller is told.
-/
import TokenFlow.Failure
import TokenFlow.Url.Query

namespace TokenFlow.Callback

set_option autoImplicit false

inductive ErrorKind where
  | providerError
  | stateMismatch
  | missingCode
  | timeout
  deriving DecidableEq, Repr

def ErrorKind.name : ErrorKind → String
  | .providerError => "provider_error"
  | .stateMismatch => "state_mismatch"
  | .missingCode => "missing_code"
  | .timeout => "timeout"

/-- The end of one login attempt. -/
structure Outcome where
  code : Option String
  errorKind : Option ErrorKind
  error : Option String
  description : Option String
  deriving DecidableEq, Repr

namespace Outcome

def ofCode (code : String) : Outcome :=
  ⟨some code, none, none, none⟩

def ofError (kind : ErrorKind) (error : String) (description : Option String) : Outcome :=
  ⟨none, some kind, some error, description⟩

/-- No wait lasts forever: running out of time is an outcome too. -/
def ofTimeout (description : Option String) : Outcome :=
  ofError .timeout "timeout" description

/-- A code, not empty, and no error. -/
def success (outcome : Outcome) : Bool :=
  outcome.errorKind.isNone && (nonempty? outcome.code).isSome

/-- The failure of an outcome that is no success. -/
def exception (outcome : Outcome) : Failure :=
  match outcome.errorKind with
  | some .providerError => .interaction (.denied outcome.error outcome.description)
  | some .stateMismatch => .interaction .stateMismatch
  | some .timeout => .timeout (.callback outcome.description)
  | _ => .interaction .codeMissing

/-- The code of a success. -/
def code? (outcome : Outcome) : Option String :=
  if outcome.success then outcome.code else none

/-- The outcome of a redirect with these parameters. -/
def judge (parameters : List (String × String)) (expectedState : String) : Outcome :=
  match Url.Query.first? parameters "error" with
  | some error =>
      ofError .providerError error (Url.Query.first? parameters "error_description")
  | none =>
      if Url.Query.first? parameters "state" = some expectedState then
        match nonempty? (Url.Query.first? parameters "code") with
        | some code => ofCode code
        | none => ofError .missingCode "No authorization code received." none
      else ofError .stateMismatch "Invalid state parameter." none

end Outcome

end TokenFlow.Callback
