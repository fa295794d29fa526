/-
# TokenFlow.Provider.Code -- login with an authorization code

A kept token is used while it lasts for another thirty seconds.  After that the
refresh token is tried, once; if it fails, it is dropped and the user logs in
with a browser.  The code comes back to the address that the listener of the login
had, and is exchanged together with that address.  The listener is stopped before
that, whatever happened, and the lock of the key is released in any case.
-/
import TokenFlow.Credential
import TokenFlow.ProofKey
import TokenFlow.Provider.TokenRequest
import TokenFlow.Url.Query
import TokenFlow.Vault
import TokenFlow.World.Loopback

namespace TokenFlow

set_option autoImplicit false

open TokenFlow.Number TokenFlow.Document

structure CodeProvider where
  authorizationEndpoint : String
  tokenEndpoint : String
  clientId : String
  clientSecret : Option String
  scope : Option String
  callbackTimeout : Amount
  verifierLength : Int
  deriving DecidableEq, Repr

namespace CodeProvider

/-- A token is not used in its last seconds. -/
def buffer : Binary64 := Binary64.exactly 30

/-- A provider cannot do without endpoints and a client. -/
def check (provider : CodeProvider) : Except Fault CodeProvider :=
  if provider.authorizationEndpoint = "" then .error (.argumentEmpty .authorizationEndpoint)
  else if provider.tokenEndpoint = "" then .error (.argumentEmpty .tokenEndpoint)
  else if provider.clientId = "" then .error (.argumentEmpty .clientId)
  else .ok provider

def cacheKey (provider : CodeProvider) : String :=
  codeKey provider.tokenEndpoint provider.clientId

/-! ## Addresses and forms -/

/-- The parameters of an authorization request. -/
def authorizationParameters (provider : CodeProvider) (redirectUri state challenge : String) :
    List (String × String) :=
  [("response_type", "code"), ("client_id", provider.clientId), ("redirect_uri", redirectUri),
    ("state", state), ("code_challenge", challenge), ("code_challenge_method", "S256")]
  ++ (match nonempty? provider.scope with
      | some scope => [("scope", scope)]
      | none => [])

/-- The address of the login page.  The endpoint may have parameters of its own. -/
def authorizationUrl (provider : CodeProvider) (redirectUri state challenge : String) : String :=
  provider.authorizationEndpoint
    ++ (if provider.authorizationEndpoint.toList.contains '?' then "&" else "?")
    ++ Url.Query.encode (provider.authorizationParameters redirectUri state challenge)

/-- The client in a form, with its secret when it has one. -/
def clientForm (provider : CodeProvider) : Http.Form :=
  ("client_id", provider.clientId)
    :: (match nonempty? provider.clientSecret with
        | some secret => [("client_secret", secret)]
        | none => [])

def exchangeForm (provider : CodeProvider) (code redirectUri verifier : String) : Http.Form :=
  [("grant_type", "authorization_code"), ("code", code), ("redirect_uri", redirectUri),
    ("code_verifier", verifier)]
  ++ provider.clientForm

def refreshForm (provider : CodeProvider) (refreshToken : String) : Http.Form :=
  [("grant_type", "refresh_token"), ("refresh_token", refreshToken)]
  ++ provider.clientForm
  ++ (match nonempty? provider.scope with
      | some scope => [("scope", scope)]
      | none => [])

/-! ## Grants -/

/-- The credential of a grant that was just received. -/
def receive (grant : Grant) : LoginAct Credential := do
  Act.lift (Credential.ofGrant grant (← Act.get).world.clock)

/-- A new refresh token replaces the kept one; without one the kept one stays. -/
def keepRenewal (grant : Grant) : LoginAct Unit :=
  match grant.renewal? with
  | some refreshToken => Login.keepRefresh (some refreshToken)
  | none => pure ()

def note (level : Level) (message : String) : LoginAct Unit :=
  Login.inWorld (World.write level .provider message)

/-- Exchanges a code. -/
def exchange (provider : CodeProvider) (code redirectUri verifier : String) :
    LoginAct Credential := do
  let grant ← Login.inWorld
    (Provider.requestGrant .exchange provider.tokenEndpoint
      (provider.exchangeForm code redirectUri verifier))
  keepRenewal grant
  note .info
    (if grant.identity?.isSome then "Successfully obtained ID token via authorization code flow"
      else "Successfully obtained access token via authorization code flow (no ID token)")
  receive grant

/-- Tries the kept refresh token.  A failure is not passed on: it costs the
refresh token, and there is no credential. -/
def refresh (provider : CodeProvider) (refreshToken : String) : LoginAct (Option Credential) := do
  let request := Provider.requestGrant .refresh provider.tokenEndpoint
    (provider.refreshForm refreshToken)
  match ← Act.attempt (Login.inWorld request) with
  | .error failure =>
      note .debug ("Refresh token failed, falling back to browser flow: " ++ failure.message)
      Login.keepRefresh none
      pure none
  | .ok grant =>
      keepRenewal grant
      note .debug
        ("Successfully refreshed " ++ if grant.identity?.isSome then "ID token" else "access token")
      some <$> receive grant

/-- The credential that the kept refresh token gives, if there is a nonempty one. -/
def renew (provider : CodeProvider) : LoginAct (Option Credential) := do
  match nonempty? (← Act.get).credentials.refreshToken with
  | some refreshToken => provider.refresh refreshToken
  | none => pure none

/-! ## Login -/

/-- Starts a listener for a state; without one there is no login. -/
def listen (state : String) : WorldAct Unit := fun world =>
  match World.startListener { world with listener := some (Callback.Listener.create state) } with
  | (.error .addressInUse, world) =>
      (.error (.failure (.listenerUnavailable
        ((Fault.message? .addressInUse).getD ""))), world)
  | result => result

/-- Runs a part of a login with a listener, which is stopped whatever comes of it. -/
def whileListening {α : Type} (state : String) (action : WorldAct α) : WorldAct α := do
  listen state
  Act.thenAlways action World.stopListener

/-- A code, and what it is exchanged with. -/
structure Authorization where
  code : String
  /-- The address that the code was sent to. -/
  redirectUri : String
  verifier : String
  deriving DecidableEq, Repr

/-- Opens the login page and waits for the code. -/
def authorize (provider : CodeProvider) (state : String) (key : ProofKey) :
    WorldAct Authorization := do
  let redirectUri ← World.listenerUri
  World.write .info .provider "Opening browser for SSO login..."
  let later ← World.launchBrowser (provider.authorizationUrl redirectUri state key.challenge)
  let code ← World.awaitCode none provider.callbackTimeout later
  pure ⟨code, redirectUri, key.verifier⟩

/-- The code of a login with a browser. -/
def obtainCode (provider : CodeProvider) : WorldAct Authorization := do
  let key ← ProofKey.generate provider.verifierLength
  let state ← drawState
  let authorization ← whileListening state (provider.authorize state key)
  World.write .debug .provider "Received authorization code, exchanging for tokens..."
  pure authorization

def logIn (provider : CodeProvider) : LoginAct Credential := do
  let authorization ← Login.inWorld provider.obtainCode
  provider.exchange authorization.code authorization.redirectUri authorization.verifier

/-! ## Tokens -/

/-- A new token: by the refresh token, else by a login. -/
def acquire (provider : CodeProvider) : LoginAct String := do
  let credential ←
    match ← provider.renew with
    | some credential => pure credential
    | none => provider.logIn
  Login.keep credential
  pure credential.value

/-- A token under the lock of the key.  While the lock was waited for, somebody
else may have got one. -/
def acquireLocked (provider : CodeProvider) : LoginAct String :=
  Login.holding do
    match ← Login.reuse buffer with
    | some value => pure value
    | none => provider.acquire

/-- A token that lasts for another while. -/
def getToken (provider : CodeProvider) : LoginAct String := do
  match ← Login.reuse buffer with
  | some value => pure value
  | none => provider.acquireLocked

end CodeProvider

end TokenFlow
