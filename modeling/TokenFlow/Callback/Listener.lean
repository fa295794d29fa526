/-
# TokenFlow.Callback.Listener -- one listener for one redirect

A listener holds the state value it expects, the port it runs on while it does,
and the outcome of its login once there is one.  `resolve` is the only way to an outcome
and the first call wins; a request resolves the listener only if its target has
the callback path and nothing was recorded before.  Whoever waits is woken by an
outcome or by the listener being stopped.
-/
import TokenFlow.Callback.Page
import TokenFlow.Callback.Request
import TokenFlow.Number.Amount

namespace TokenFlow.Callback

set_option autoImplicit false

open TokenFlow.Number

inductive Status where
  | created
  | listening
  | completed
  | timedOut
  deriving DecidableEq, Repr

def Status.name : Status → String
  | .created => "created"
  | .listening => "listening"
  | .completed => "completed"
  | .timedOut => "timed_out"

structure Listener where
  expectedState : String
  /-- The port it was given; none while it does not run. -/
  port : Option Nat
  status : Status
  outcome : Option Outcome
  /-- Nobody has to wait any more: there is an outcome, or the listener was stopped. -/
  done : Bool
  deriving DecidableEq, Repr

/-- The answer to a request. -/
inductive Answer where
  /-- A page of this library. -/
  | page (framing : Framing) (page : Page)
  /-- A page of the server itself, which says no more than its status. -/
  | status (framing : Framing) (code : Nat)
  /-- The connection is closed without an answer. -/
  | dropped
  /-- Nothing listens. -/
  | refused
  deriving DecidableEq, Repr

namespace Answer

/-- The status in the status line, when there is one. -/
def status? : Answer → Option Nat
  | .page .headed sent => some sent.status
  | .status .headed code => some code
  | _ => none

/-- The length in the headers of a page of this library, when it has headers. -/
def contentLength? : Answer → Option Nat
  | .page .headed sent => some sent.contentLength
  | _ => none

/-- The page of this library that is sent. -/
def page? : Answer → Option Page
  | .page _ sent => some sent
  | _ => none

end Answer

def callbackPath : String := "/callback"

/-- The address that a redirect to a port goes to. -/
def redirectUri (port : Nat) : String :=
  "http://127.0.0.1:" ++ toString port ++ callbackPath

/-- How long a login may take, in seconds. -/
def defaultTimeout : Amount := .real (Binary64.exactly 120)

/-- What a request asks of a listener. -/
inductive Verdict where
  /-- It is answered without touching the outcome. -/
  | answer (answer : Answer) (notes : List String)
  /-- It is a redirect that decides the login, unless another one did before. -/
  | redirect (line : String) (framing : Framing) (outcome : Outcome)

namespace Listener

def create (expectedState : String) : Listener :=
  ⟨expectedState, none, .created, none, false⟩

/-! ## Starting and stopping -/

def running (listener : Listener) : Bool :=
  listener.port.isSome

/-- A listener that already ran keeps its outcome when it is started again. -/
def start (port : Nat) (listener : Listener) : Listener :=
  { listener with port := some port, status := .listening }

/-- Stops, as often as one likes, and wakes whoever waits. -/
def stop (listener : Listener) : Listener :=
  { listener with port := none, done := true }

/-! ## Outcome -/

/-- Records an outcome unless there is one; says whether it was recorded. -/
def resolve (listener : Listener) (outcome : Outcome) : Bool × Listener :=
  match listener.outcome with
  | some _ => (false, listener)
  | none =>
      (true,
        { listener with
          outcome := some outcome
          status := if outcome.errorKind = some .timeout then .timedOut else .completed
          done := true })

/-- Records the outcome of another party, when there is one in the race. -/
def overtake (listener : Listener) (rival : Option Outcome) : Listener :=
  match rival with
  | some outcome => (listener.resolve outcome).2
  | none => listener

/-! ## Requests -/

def requestNote (line : String) (status : Nat) : String :=
  "Callback server: \"" ++ line ++ "\" " ++ toString status ++ " -"

/-- A bare status, and what is noted about it. -/
def bare (line : String) (framing : Framing) (status : Nat) (reason : String) :
    Answer × List String :=
  (.status framing status,
    ["Callback server: code " ++ toString status ++ ", message " ++ reason,
      requestNote line status])

def notFound (line : String) (framing : Framing) : Answer × List String :=
  bare line framing 404 "Not Found"

/-- What a request asks for. -/
def examine (listener : Listener) (request : List UInt8) : Verdict :=
  match Request.read request with
  | .silent => .answer .dropped []
  | .rejected line framing rejection =>
      let (answer, notes) := bare line framing rejection.status rejection.reason
      .answer answer notes
  | .target line framing target =>
      match Url.split target with
      | .error _ => .answer .dropped []
      | .ok parts =>
          if parts.path = callbackPath.toList ∧ listener.outcome.isNone then
            .redirect line framing
              (Outcome.judge (Url.Query.decodePairs parts.query) listener.expectedState)
          else
            let (answer, notes) := notFound line framing
            .answer answer notes

/-- Answers a request after its examination.  A redirect that comes second is
not found, whatever it says. -/
def settle (listener : Listener) : Verdict → (Answer × List String) × Listener
  | .answer answer notes => ((answer, notes), listener)
  | .redirect line framing outcome =>
      match listener.resolve outcome with
      | (true, resolved) =>
          let page := Page.ofOutcome outcome
          ((.page framing page, [requestNote line page.status]), resolved)
      | (false, _) => (notFound line framing, listener)

/-- The answer to a request, what is noted about it, and the listener after it.
Between examination and answer a rival may record an outcome. -/
def receive (listener : Listener) (rival : Option Outcome) (request : List UInt8) :
    (Answer × List String) × Listener :=
  if listener.running then
    match listener.examine request with
    | .answer answer notes => ((answer, notes), listener)
    | .redirect line framing outcome =>
        (listener.overtake rival).settle (.redirect line framing outcome)
  else ((.refused, []), listener)

/-! ## Waiting -/

/-- Why a wait ended without an outcome; none when its length is beyond all doubles
and would have to be told. -/
def waitText? (listener : Listener) (timeout : Amount) : Option String :=
  if !listener.running && listener.outcome.isNone then some "callback server closed"
  else timeout.toBinary64?.map fun seconds => "waited " ++ seconds.toBrief ++ " seconds"

/-- Ends a wait: running out of time, for the reason given, is recorded unless
something else was, and the recorded outcome is the result. -/
def conclude (listener : Listener) (rival : Option Outcome) (reason : String) :
    Outcome × Listener :=
  let timedOut := Outcome.ofTimeout (some reason)
  let concluded := ((listener.overtake rival).resolve timedOut).2
  (concluded.outcome.getD timedOut, concluded)

end Listener

end TokenFlow.Callback
