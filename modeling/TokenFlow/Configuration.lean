/-
# TokenFlow.Configuration -- what a connection says about its login

Settings are checked when a configuration is made, so a configuration always
names a flow and what that flow needs.  Opening it gives an account: endpoints
that are not given are asked of the issuer, and an address that the server
advertised replaces the configured one, after the same check.
-/
import TokenFlow.Account
import TokenFlow.Discovery

namespace TokenFlow

set_option autoImplicit false

open TokenFlow.Number TokenFlow.Text

/-! ## Flows -/

inductive Flow where
  | authorizationCode
  | delegated
  deriving DecidableEq, Repr

namespace Flow

def name : Flow → String
  | .authorizationCode => "authorization_code"
  | .delegated => "server_side"

/-- The flow that a word stands for. -/
def ofWord? (word : List Char) : Option Flow :=
  if ["authorization_code", "authorization-code"].contains (String.ofList word) then
    some .authorizationCode
  else if ["server_side", "server-side", "serverside"].contains (String.ofList word) then
    some .delegated
  else none

/-- Reads a flow, in any case and with blanks around it. -/
def read (text : Option String) : Except ConfigurationFailure Flow :=
  match nonempty? text with
  | none => .error .flowMissing
  | some text =>
      match ofWord? (lowerAscii (trim isSeparator text.toList)) with
      | some flow => .ok flow
      | none => .error (.flowUnsupported text)

end Flow

/-! ## Settings -/

/-- Settings as they are given. -/
structure Settings where
  flow : Option String
  tokenUri : Option String
  authorizationUrl : Option String
  issuer : Option String
  clientId : Option String
  clientSecret : Option String
  scope : Option String
  serverUrl : Option String
  disableVerification : Bool
  deriving DecidableEq, Repr

/-- A delegated login that nothing else is known about. -/
def Settings.default : Settings :=
  ⟨some Flow.delegated.name, none, none, none, none, none, none, none, false⟩

structure Configuration where
  flow : Flow
  tokenUri : Option String
  authorizationUrl : Option String
  issuer : Option String
  clientId : Option String
  clientSecret : Option String
  scope : Option String
  serverUrl : Option String
  disableVerification : Bool
  deriving DecidableEq, Repr

namespace Configuration

def settings (configuration : Configuration) : Settings where
  flow := some configuration.flow.name
  tokenUri := configuration.tokenUri
  authorizationUrl := configuration.authorizationUrl
  issuer := configuration.issuer
  clientId := configuration.clientId
  clientSecret := configuration.clientSecret
  scope := configuration.scope
  serverUrl := configuration.serverUrl
  disableVerification := configuration.disableVerification

/-! ## Check -/

/-- Whether an address names a network location under a web scheme. -/
def isWebUrl (parts : Url.Parts) : Bool :=
  ["http", "https"].contains (String.ofList parts.scheme) && !parts.location.isEmpty

/-- An address that is given has to be a web address. -/
def checkUrl (setting : Setting) (value : Option String) : Except Fault Unit :=
  match nonempty? value with
  | none => .ok ()
  | some text =>
      match Url.split text with
      | .error error => .error (.address error)
      | .ok parts =>
          if isWebUrl parts then .ok ()
          else .error (.configuration (.urlInvalid setting text))

def checkAuthorizationCode (configuration : Configuration) : Except Fault Unit := do
  if (nonempty? configuration.clientId).isNone then
    throw (.configuration .clientIdMissing)
  if (nonempty? configuration.tokenUri).isNone && (nonempty? configuration.issuer).isNone then
    throw (.configuration .endpointSourceMissing)
  checkUrl .tokenUri configuration.tokenUri
  checkUrl .authorizationUrl configuration.authorizationUrl
  checkUrl .issuer configuration.issuer

def checkDelegated (configuration : Configuration) : Except Fault Unit := do
  if (nonempty? configuration.serverUrl).isNone then
    throw (.configuration .serverUrlMissing)
  checkUrl .serverUrl configuration.serverUrl

/-- Checks what the flow of a configuration needs, and nothing else. -/
def check (configuration : Configuration) : Except Fault Unit :=
  match configuration.flow with
  | .authorizationCode => configuration.checkAuthorizationCode
  | .delegated => configuration.checkDelegated

/-- The configuration that settings make. -/
def ofSettings (settings : Settings) : Except Fault Configuration := do
  let flow ← (Flow.read settings.flow).mapError Fault.configuration
  let configuration : Configuration :=
    ⟨flow, settings.tokenUri, settings.authorizationUrl, settings.issuer, settings.clientId,
      settings.clientSecret, settings.scope, settings.serverUrl, settings.disableVerification⟩
  configuration.check
  pure configuration

/-! ## Advertised address -/

/-- The configuration for a server that advertised its address. -/
def ofAdvertised (advertised : Option String) (disableVerification : Bool) :
    Except Fault Configuration :=
  match nonempty? advertised with
  | none => .error (.configuration .notAdvertised)
  | some url =>
      ofSettings { Settings.default with serverUrl := some url, disableVerification }

/-- The advertised address, if it takes the place of the configured one. -/
def replacement? (configuration : Configuration) (advertised : Option String) : Option String :=
  match configuration.flow with
  | .authorizationCode => none
  | .delegated => (nonempty? advertised).filter fun url => some url ≠ configuration.serverUrl

/-- The configuration with the advertised address, when there is one. -/
def withAdvertised (configuration : Configuration) (advertised : Option String) :
    Except Fault Configuration :=
  match configuration.replacement? advertised with
  | none => .ok configuration
  | some url => ofSettings { configuration.settings with serverUrl := some url }

/-! ## Opening -/

/-- How an account behaves apart from its configuration. -/
structure Options where
  cache : String
  callbackTimeout : Amount
  pollInterval : Amount
  pollTimeout : Amount
  deriving DecidableEq, Repr

def Options.default : Options where
  cache := Vault.defaultCache
  callbackTimeout := Callback.defaultTimeout
  pollInterval := .real (Binary64.exactly 1)
  pollTimeout := .real (Binary64.exactly 300)

/-- An explicit endpoint, or else what was discovered. -/
def endpointOr (explicit : Option String) (discovered : Option String) : Option String :=
  match nonempty? explicit with
  | some endpoint => some endpoint
  | none => discovered

/-- The endpoints of the issuer, when one is known and an endpoint is missing. -/
def discovered (configuration : Configuration) : WorldAct (Option Discovery.Endpoints) :=
  if (nonempty? configuration.authorizationUrl).isSome
      && (nonempty? configuration.tokenUri).isSome then pure none
  else
    match nonempty? configuration.issuer with
    | some issuer => some <$> Discovery.endpoints issuer
    | none => pure none

/-- The endpoints to log in at. -/
def endpoints (configuration : Configuration) : WorldAct Discovery.Endpoints := do
  let discovered ← configuration.discovered
  match endpointOr configuration.authorizationUrl (discovered.map (·.authorization)) with
  | none => Act.raise (.configuration .authorizationEndpointUnknown)
  | some authorization =>
      match endpointOr configuration.tokenUri (discovered.map (·.token)) with
      | none => Act.raise (.configuration .tokenEndpointUnknown)
      | some token => pure ⟨authorization, token⟩

/-- The provider of a login with a code. -/
def codeProvider (configuration : Configuration) (options : Options) : WorldAct Provider := do
  let endpoints ← configuration.endpoints
  Provider.code <$> Act.lift (CodeProvider.check
    { authorizationEndpoint := endpoints.authorization
      tokenEndpoint := endpoints.token
      clientId := configuration.clientId.getD ""
      clientSecret := configuration.clientSecret
      scope := configuration.scope
      callbackTimeout := options.callbackTimeout
      verifierLength := ProofKey.defaultLength })

/-- The provider of a delegated login. -/
def delegatedProvider (configuration : Configuration) (options : Options) : WorldAct Provider :=
  Provider.delegated <$> Act.lift (DelegatedProvider.create
    (configuration.serverUrl.getD "") configuration.disableVerification
    options.pollInterval options.pollTimeout)

def provider (configuration : Configuration) (options : Options) : WorldAct Provider :=
  match configuration.flow with
  | .authorizationCode => configuration.codeProvider options
  | .delegated => configuration.delegatedProvider options

/-- Opens the account that a configuration describes, at the advertised address
when there is one. -/
def account (configuration : Configuration) (advertised : Option String)
    (options : Options) : AgentAct Account := do
  let configuration ← Act.lift (configuration.withAdvertised advertised)
  let provider ← Agent.inWorld (configuration.provider options)
  Account.ofProvider options.cache provider

end Configuration

end TokenFlow
