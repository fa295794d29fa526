/-
# TokenFlow.Failure -- how a sign-in fails

A `Failure` is what a caller handles: it belongs to one of six categories, which
tell a bad setting from a timeout, and keeps its cause; the wording and the
attributes are functions of the cause.  A `Fault` is everything that can stop a
call: a failure, or something outside that taxonomy (an unreadable address, an
amount beyond all doubles, a listener used out of order, something that the
caller's own code raised, ...).
-/
import TokenFlow.Document.Issue
import TokenFlow.Host.Label
import TokenFlow.Number.Amount
import TokenFlow.Text.Quoted
import TokenFlow.Url.Parts

namespace TokenFlow

set_option autoImplicit false

open TokenFlow.Document TokenFlow.Number

/-! ## Causes -/

/-- The settings that a failure can name. -/
inductive Setting where
  | flow
  | clientId
  | tokenUri
  | authorizationUrl
  | issuer
  | serverUrl
  deriving DecidableEq, Repr

def Setting.name : Setting → String
  | .flow => "flow"
  | .clientId => "client_id"
  | .tokenUri => "token_uri"
  | .authorizationUrl => "authorization_url"
  | .issuer => "oidc_issuer"
  | .serverUrl => "oauth_server_url"

/-- The two endpoints of an issuer. -/
inductive Endpoint where
  | authorization
  | token
  deriving DecidableEq, Repr

def Endpoint.name : Endpoint → String
  | .authorization => "authorization_endpoint"
  | .token => "token_endpoint"

/-- A required setting is missing, invalid or cannot be determined. -/
inductive ConfigurationFailure where
  | flowMissing
  | flowUnsupported (flow : String)
  | clientIdMissing
  /-- Neither a token endpoint nor an issuer to ask for one. -/
  | endpointSourceMissing
  | serverUrlMissing
  | urlInvalid (setting : Setting) (value : String)
  /-- The server advertised no address. -/
  | notAdvertised
  | authorizationEndpointUnknown
  | tokenEndpointUnknown
  /-- The issuer publishes no such endpoint. -/
  | endpointUnpublished (issuer : String) (endpoint : Endpoint)
  deriving DecidableEq, Repr

/-- The metadata of an issuer cannot be fetched or read. -/
inductive DiscoveryFailure where
  | unreachable (issuer detail : String)
  | status (issuer : String) (status : Nat)
  | invalid (issuer : String) (status : Nat) (issues : List Issue)
  deriving DecidableEq, Repr

/-- The part of a login that the user sees cannot complete. -/
inductive InteractionFailure where
  | browserUnavailable (url : String)
  /-- The issuer answered with an error. -/
  | denied (error description : Option String)
  | stateMismatch
  | codeMissing
  /-- The companion service reported an error. -/
  | sessionFailed (error : Option String)
  deriving DecidableEq, Repr

/-- A wait exceeded its bound. -/
inductive TimeoutFailure where
  | callback (description : Option String)
  | polling (seconds : Binary64)
  deriving DecidableEq, Repr

/-- What a token endpoint is asked for. -/
inductive GrantStep where
  | exchange
  | refresh
  deriving DecidableEq, Repr

def GrantStep.label : GrantStep → String
  | .exchange => "Token exchange"
  | .refresh => "Token refresh"

/-- A token request is rejected. -/
inductive TokenFailure where
  | unreachable (step : GrantStep) (endpoint detail : String)
  /-- A refusal with an error report. -/
  | refused (step : GrantStep) (status : Nat) (error : String) (description : Option String)
  /-- A refusal without one. -/
  | status (step : GrantStep) (status : Nat) (body : String)
  | invalid (step : GrantStep) (status : Nat) (issues : List Issue)
  /-- The companion service completed the session without a token. -/
  | sessionWithoutToken
  deriving DecidableEq, Repr

/-- Why a sign-in failed. -/
inductive Failure where
  | configuration (cause : ConfigurationFailure)
  | discovery (cause : DiscoveryFailure)
  | interaction (cause : InteractionFailure)
  | timeout (cause : TimeoutFailure)
  | token (cause : TokenFailure)
  | listenerUnavailable (detail : String)
  | delegationUnreachable (detail : String)
  | initiationStatus (status : Nat) (body : String)
  | initiationInvalid (issues : List Issue)
  | reportInvalid (issues : List Issue)
  deriving DecidableEq, Repr

/-! ## Wording -/

/-- Stands in a message for the list of issues, which callers get apart from it. -/
def issuesText : String := "<validation error>"

/-- A text in a message, `None` when there is none. -/
def shown (text : Option String) : String :=
  text.getD "None"

/-- The text if it is there and not empty. -/
def nonempty? (text : Option String) : Option String :=
  text.filter (· ≠ "")

theorem nonempty?_eq_some_iff {text : Option String} {value : String} :
    nonempty? text = some value ↔ text = some value ∧ value ≠ "" := by
  rw [nonempty?, Option.filter_eq_some_iff, decide_eq_true_iff]

def ConfigurationFailure.message : ConfigurationFailure → String
  | .flowMissing => "OAuth flow cannot be null or empty"
  | .flowUnsupported flow => "Unsupported OAuth flow: " ++ flow
  | .clientIdMissing => "client_id is required for authorization_code flow"
  | .endpointSourceMissing =>
      "Either token_uri+authorization_url or oidc_issuer is required for authorization_code flow"
  | .serverUrlMissing => "oauth_server_url is required for server_side flow"
  | .urlInvalid setting value => "Invalid " ++ setting.name ++ ": " ++ value
  | .notAdvertised => "The server did not advertise an OAuth URL during the discovery handshake"
  | .authorizationEndpointUnknown =>
      "Authorization endpoint could not be determined. Set authorization_url or oidc_issuer."
  | .tokenEndpointUnknown =>
      "Token endpoint could not be determined. Set token_uri or oidc_issuer."
  | .endpointUnpublished issuer endpoint =>
      "OIDC discovery document from " ++ issuer ++ " missing " ++ endpoint.name

/-- The setting to look at. -/
def ConfigurationFailure.setting : ConfigurationFailure → Setting
  | .flowMissing | .flowUnsupported _ => .flow
  | .clientIdMissing => .clientId
  | .endpointSourceMissing | .tokenEndpointUnknown => .tokenUri
  | .serverUrlMissing | .notAdvertised => .serverUrl
  | .urlInvalid setting _ => setting
  | .authorizationEndpointUnknown => .authorizationUrl
  | .endpointUnpublished _ _ => .issuer

/-- The endpoint that an issuer does not publish. -/
def ConfigurationFailure.missing? : ConfigurationFailure → Option Endpoint
  | .endpointUnpublished _ endpoint => some endpoint
  | _ => none

def DiscoveryFailure.message : DiscoveryFailure → String
  | .unreachable issuer detail => "Failed to connect to OIDC issuer at " ++ issuer ++ ": " ++ detail
  | .status issuer code =>
      "Failed to fetch OIDC discovery document from " ++ issuer ++ ": HTTP " ++ toString code
  | .invalid issuer _ _ =>
      "Invalid OIDC discovery document from " ++ issuer ++ ": " ++ issuesText

def DiscoveryFailure.issuer : DiscoveryFailure → String
  | .unreachable issuer _ | .status issuer _ | .invalid issuer _ _ => issuer

def DiscoveryFailure.status? : DiscoveryFailure → Option Nat
  | .unreachable _ _ => none
  | .status _ code | .invalid _ code _ => some code

def InteractionFailure.message : InteractionFailure → String
  | .browserUnavailable url =>
      "Cannot open browser for SSO login. Please open this URL manually: " ++ url
  | .denied error description =>
      "OAuth authorization failed: " ++ shown error ++ " - "
        ++ (nonempty? description).getD "Unknown error"
  | .stateMismatch => "OAuth callback state mismatch (possible CSRF attack)"
  | .codeMissing => "No authorization code in OAuth callback"
  | .sessionFailed error =>
      "Server-side OAuth authentication failed: " ++ (nonempty? error).getD "unknown error"

def InteractionFailure.error? : InteractionFailure → Option String
  | .browserUnavailable _ => none
  | .denied error _ => error
  | .stateMismatch => some "state_mismatch"
  | .codeMissing => some "missing_code"
  | .sessionFailed error => error

def InteractionFailure.description? : InteractionFailure → Option String
  | .denied _ description => description
  | _ => none

def TimeoutFailure.message : TimeoutFailure → String
  | .callback description =>
      "Timed out waiting for browser login (" ++ shown description
        ++ "). Please try connecting again."
  | .polling seconds =>
      "Server-side OAuth authentication timed out after " ++ seconds.toBrief ++ " seconds"

def TokenFailure.message : TokenFailure → String
  | .unreachable step endpoint detail =>
      step.label ++ " request to " ++ endpoint ++ " failed: " ++ detail
  | .refused step _ error description =>
      step.label ++ " failed: " ++ error ++ " - " ++ shown description
  | .status step code body =>
      step.label ++ " failed: HTTP " ++ toString code ++ ": " ++ body
  | .invalid step _ _ => step.label ++ " failed: invalid token response: " ++ issuesText
  | .sessionWithoutToken => "OAuth server returned complete status but no token"

def TokenFailure.status? : TokenFailure → Option Nat
  | .refused _ code _ _ | .status _ code _ | .invalid _ code _ => some code
  | .unreachable _ _ _ | .sessionWithoutToken => none

def TokenFailure.error? : TokenFailure → Option String
  | .refused _ _ error _ => some error
  | _ => none

namespace Failure

def message : Failure → String
  | .configuration cause => cause.message
  | .discovery cause => cause.message
  | .interaction cause => cause.message
  | .timeout cause => cause.message
  | .token cause => cause.message
  | .listenerUnavailable detail => "Failed to start OAuth callback server: " ++ detail
  | .delegationUnreachable detail => "Server-side OAuth authentication failed: " ++ detail
  | .initiationStatus status body =>
      "OAuth initiate failed with status " ++ toString status ++ ": " ++ body
  | .initiationInvalid _ => "OAuth initiate response missing session_uuid or auth_url"
  | .reportInvalid _ => "Invalid OAuth status response: " ++ issuesText

/-- The issues of the document that caused the failure, if one did. -/
def issues? : Failure → Option (List Issue)
  | .discovery (.invalid _ _ issues) => some issues
  | .token (.invalid _ _ issues) => some issues
  | .initiationInvalid issues => some issues
  | .reportInvalid issues => some issues
  | _ => none

end Failure

/-! ## Faults -/

/-- An argument that a provider cannot do without. -/
inductive Argument where
  | authorizationEndpoint
  | tokenEndpoint
  | clientId
  | baseUrl
  deriving DecidableEq, Repr

def Argument.name : Argument → String
  | .authorizationEndpoint => "authorization_endpoint"
  | .tokenEndpoint => "token_endpoint"
  | .clientId => "client_id"
  | .baseUrl => "oauth_base_url"

/-- What code from outside raised: its class, its text, and whether it is one of the
transport failures of the network. -/
structure Foreign where
  kind : String
  text : String
  isTransport : Bool
  deriving DecidableEq, Repr

/-- Everything that can stop a call. -/
inductive Fault where
  | failure (failure : Failure)
  /-- A document is not what it should be. -/
  | document (issues : List Issue)
  | address (error : Url.UrlError)
  | argumentEmpty (argument : Argument)
  | verifierLength
  | listenerStarted
  | listenerStopped
  /-- A bearer credential can only be fetched by a client that may wait. -/
  | blockingClient
  /-- A code verifier, a header or a numeric host holds a character outside ASCII. -/
  | notAscii
  /-- A header is not UTF-8. -/
  | notUtf8
  /-- A whole number is beyond all doubles, or a wait longer than any that can be had. -/
  | overflow
  /-- An address that no request can be sent to. -/
  | unrequestable
  /-- The host of an address is spelled like an international one, and is none. -/
  | hostName (cause : Host.LabelError)
  /-- Nothing tells the kind of an address. -/
  | kindless (text : String)
  | addressInUse
  /-- The browser opener raised, or the text of an answer cannot be read. -/
  | foreign (cause : Foreign)
  deriving DecidableEq, Repr

def addressErrorText : Url.UrlError → String
  | .brackets => "Invalid IPv6 URL"
  | .bracketedDotted => "An IPv4 address cannot be in brackets"
  | .bracketedFuture => "IPvFuture address is invalid"
  | .bracketedName host =>
      Text.Quoted.toText host ++ " does not appear to be an IPv4 or IPv6 address"
  | .hiddenMark location =>
      "netloc '" ++ location ++ "' contains invalid characters under NFKC normalization"

namespace Fault

/-- The shortest and the longest verifier. -/
def verifierLengthText : String :=
  "Verifier length must be between 43 and 128 characters"

/-- The wording, where there is one. -/
def message? : Fault → Option String
  | .failure cause => some cause.message
  | .address error => some (addressErrorText error)
  | .argumentEmpty argument => some (argument.name ++ " cannot be empty")
  | .verifierLength => some verifierLengthText
  | .listenerStarted => some "Callback server already started"
  | .listenerStopped => some "Callback server is not running"
  | .blockingClient => some "TokenProviderAuth requires an httpx.AsyncClient"
  | .addressInUse => some "[Errno 98] Address already in use"
  | .kindless text => some ("unknown url type: " ++ Text.Quoted.toText text)
  | .foreign cause => some cause.text
  | .document _ | .notAscii | .notUtf8 | .overflow | .unrequestable | .hostName _ => none

def configuration (cause : ConfigurationFailure) : Fault :=
  .failure (.configuration cause)

end Fault

end TokenFlow
