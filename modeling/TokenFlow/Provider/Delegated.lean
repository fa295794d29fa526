/-
# TokenFlow.Provider.Delegated -- login through a companion service

The service runs the login: it names a page to open and a session, and is asked
for the session until it reports a token, an error, or the time is over.  A
transport failure is a failure of the login, whoever reports it.  The service also
owns renewal, so what is kept is a bare token that does not end.  Every
round of asking uses up a reply of the network (`pollOnce_replies_lt`), which is
why asking comes to an end.
-/
import TokenFlow.Credential
import TokenFlow.Document.Delegation
import TokenFlow.Text.Percent
import TokenFlow.Vault
import TokenFlow.World.Loopback
import TokenFlow.World.Network

namespace TokenFlow

set_option autoImplicit false

open TokenFlow.Number TokenFlow.Document

structure DelegatedProvider where
  /-- Without slashes at its end. -/
  baseUrl : String
  disableVerification : Bool
  pollInterval : Amount
  pollTimeout : Amount
  deriving DecidableEq, Repr

namespace DelegatedProvider

/-- A service that can be asked needs an address. -/
def create (baseUrl : String) (disableVerification : Bool) (pollInterval pollTimeout : Amount) :
    Except Fault DelegatedProvider :=
  if baseUrl = "" then .error (.argumentEmpty .baseUrl)
  else .ok ⟨Url.withoutTrailingSlashes baseUrl, disableVerification, pollInterval, pollTimeout⟩

def cacheKey (provider : DelegatedProvider) : String :=
  delegatedKey provider.baseUrl

/-- The kept token is used up to its end. -/
def buffer : Binary64 := Binary64.exactly 0

def initiationUrl (provider : DelegatedProvider) : String :=
  provider.baseUrl ++ "/oauth/initiate"

def sessionUrl (provider : DelegatedProvider) (session : String) : String :=
  provider.baseUrl ++ "/oauth/token/" ++ String.ofList (Text.Percent.encode session.toList)

/-! ## Asking the service -/

/-- The final response to a request for an address. -/
def ask (url : String) : WorldAct Http.Response := do
  match ← World.fetch (.get url) with
  | .ok response => pure response
  | .error detail => Act.fail (.delegationUnreachable detail)

theorem ask_replies_lt {url : String} {world after : World} {response : Http.Response}
    (h : ask url world = (.ok response, after)) :
    after.replies.length < world.replies.length := by
  simp only [ask, Act.bind_apply] at h
  split at h
  · rename_i reply fetched hfetch
    cases reply with
    | ok final =>
        simp only [Act.pure_apply, Prod.mk.injEq] at h
        rw [← h.2]
        exact World.fetch_replies_lt hfetch
    | error detail => simp [Act.fail, Act.raise] at h
  · simp at h

/-- What is raised for a status other than 200 at the start. -/
def refuse (response : Http.Response) : Fault :=
  match response.text with
  | .ok text => .failure (.initiationStatus response.status text)
  | .error cause => .foreign cause

/-- The initiation in a response. -/
def initiationOf (response : Http.Response) : Except Fault Initiation :=
  if response.status = 200 then
    match Initiation.ofBody response.body with
    | .ok initiation => .ok initiation
    | .error issues => .error (.failure (.initiationInvalid issues))
  else .error (refuse response)

/-- What a session report means for the login: a token, or nothing yet. -/
def tokenOf (report : SessionReport) : Except Failure (Option String) :=
  if report.status = "complete" then
    match nonempty? report.token with
    | some token => .ok (some token)
    | none => .error (.token .sessionWithoutToken)
  else if report.status = "error" then .error (.interaction (.sessionFailed report.error))
  else .ok none

/-- The token in a response to a poll.  A status other than 200 is taken for a
disturbance that will pass. -/
def answerOf (response : Http.Response) : Except Failure (Option String) :=
  if response.status = 200 then
    match SessionReport.ofBody response.body with
    | .ok report => tokenOf report
    | .error issues => .error (.reportInvalid issues)
  else .ok none

/-- Notes a status other than 200. -/
def noteDisturbance (response : Http.Response) (world : World) : World :=
  if response.status = 200 then world
  else
    world.note .debug .provider
      ("OAuth status poll returned HTTP " ++ toString response.status ++ ", retrying")

theorem noteDisturbance_replies (response : Http.Response) (world : World) :
    (noteDisturbance response world).replies = world.replies := by
  unfold noteDisturbance
  split <;> rfl

/-! ## Polling -/

/-- Waits for one interval and asks once: a token, or nothing yet. -/
def pollOnce (provider : DelegatedProvider) (url : String) : WorldAct (Option String) := do
  World.sleep provider.pollInterval
  let response ← ask url
  Act.update (noteDisturbance response)
  match answerOf response with
  | .ok answer => pure answer
  | .error failure => Act.fail failure

theorem pollOnce_replies_lt (provider : DelegatedProvider) (url : String) (world after : World)
    {answer : Option String} (h : provider.pollOnce url world = (.ok answer, after)) :
    after.replies.length < world.replies.length := by
  simp only [pollOnce, Act.bind_apply] at h
  split at h
  · rename_i slept hslept
    rw [← World.sleep_replies hslept]
    split at h
    · rename_i response asked hasked
      have used := ask_replies_lt hasked
      simp only [Act.update] at h
      cases hanswer : answerOf response with
      | ok value =>
          simp only [hanswer, Act.pure_apply, Prod.mk.injEq] at h
          rw [← h.2, noteDisturbance_replies]
          exact used
      | error failure => simp [hanswer, Act.fail, Act.raise] at h
    · simp at h
  · simp at h

/-- Asks until there is a token or the clock has reached the deadline, which is
`seconds` after the first question. -/
def poll (provider : DelegatedProvider) (url : String) (seconds deadline : Binary64)
    (world : World) : Except Fault String × World :=
  if world.clock.lt deadline then
    match _h : provider.pollOnce url world with
    | (.ok (some token), world) => (.ok token, world)
    | (.ok none, after) => poll provider url seconds deadline after
    | (.error fault, world) => (.error fault, world)
  else (.error (.failure (.timeout (.polling seconds))), world)
termination_by world.replies.length
decreasing_by exact pollOnce_replies_lt provider url world after _h

/-- Asks for a session until the time for it is over. -/
def pollForToken (provider : DelegatedProvider) (session : String) : WorldAct String := do
  let world ← Act.get
  let seconds ← Act.seconds provider.pollTimeout
  let token ← provider.poll (provider.sessionUrl session) seconds (world.clock.add seconds)
  World.write .info .provider "Server-side OAuth authentication successful"
  pure token

/-! ## Login -/

/-- What a caller is told about a fault: a transport failure that came from elsewhere is one
of the login too. -/
def told : Fault → Fault
  | .foreign cause =>
      if cause.isTransport then .failure (.delegationUnreachable cause.text) else .foreign cause
  | fault => fault

/-- The token of a session that is started here. -/
def runSession (provider : DelegatedProvider) : WorldAct String := do
  World.newClient (.create none (!provider.disableVerification))
  let response ← ask provider.initiationUrl
  let initiation ← Act.lift (initiationOf response)
  World.write .info .provider "Opening browser for server-side SSO login..."
  let _ ← World.launchBrowser initiation.loginUrl
  World.write .info .provider "Waiting for authentication to complete..."
  provider.pollForToken initiation.session

def logIn (provider : DelegatedProvider) : WorldAct String :=
  Act.mapFault told provider.runSession

/-! ## Tokens -/

/-- A new token, which is kept. -/
def acquire (provider : DelegatedProvider) : LoginAct String := do
  let value ← Login.inWorld provider.logIn
  Login.keep ⟨value, none⟩
  pure value

/-- A token under the lock of the key. -/
def acquireLocked (provider : DelegatedProvider) : LoginAct String :=
  Login.holding do
    match ← Login.reuse buffer with
    | some value => pure value
    | none => provider.acquire

def getToken (provider : DelegatedProvider) : LoginAct String := do
  match ← Login.reuse buffer with
  | some value => pure value
  | none => provider.acquireLocked

end DelegatedProvider

end TokenFlow
