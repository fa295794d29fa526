/-
# TokenFlow.Discovery -- the endpoints of an issuer

An issuer publishes its endpoints in a metadata document under a well-known path.
They are fetched with one request and used exactly as published; a document that
lacks one of them is of no use to a login.
-/
import TokenFlow.Document.Metadata
import TokenFlow.Url.Base
import TokenFlow.World.Network

namespace TokenFlow.Discovery

set_option autoImplicit false

open TokenFlow.Document

structure Endpoints where
  authorization : String
  token : String
  deriving DecidableEq, Repr

def wellKnownPath : String := "/.well-known/openid-configuration"

/-- Where the metadata of an issuer is. -/
def metadataUrl (issuer : String) : String :=
  Url.withoutTrailingSlashes issuer ++ wellKnownPath

def headers : List (String × String) :=
  [("accept", "application/json")]

/-- The endpoints that a metadata document publishes. -/
def endpointsOf (issuer : String) (metadata : Metadata) :
    Except ConfigurationFailure Endpoints :=
  match nonempty? metadata.authorizationEndpoint with
  | none => .error (.endpointUnpublished issuer .authorization)
  | some authorization =>
      match nonempty? metadata.tokenEndpoint with
      | none => .error (.endpointUnpublished issuer .token)
      | some token => .ok ⟨authorization, token⟩

/-- The metadata in a response. -/
def metadataOf (issuer : String) (response : Http.Response) :
    Except DiscoveryFailure Metadata :=
  if response.status = 200 then
    match Metadata.ofBody response.body with
    | .ok metadata => .ok metadata
    | .error issues => .error (.invalid issuer response.status issues)
  else .error (.status issuer response.status)

/-- What a response, or the failure to get one, says about the endpoints. -/
def conclude (issuer : String) : Except String Http.Response → Except Failure Endpoints
  | .error detail => .error (.discovery (.unreachable issuer detail))
  | .ok response =>
      match metadataOf issuer response with
      | .error cause => .error (.discovery cause)
      | .ok metadata => (endpointsOf issuer metadata).mapError Failure.configuration

/-- Asks an issuer for its endpoints, once. -/
def endpoints (issuer : String) : WorldAct Endpoints := do
  World.write .debug .discovery
    ("Fetching OIDC discovery document from " ++ metadataUrl issuer)
  World.newClient (.create none true)
  let reply ← World.fetch { Http.Request.get (metadataUrl issuer) with headers }
  match conclude issuer reply with
  | .ok endpoints => pure endpoints
  | .error failure => Act.fail failure

end TokenFlow.Discovery
