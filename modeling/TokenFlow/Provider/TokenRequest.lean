/-
# TokenFlow.Provider.TokenRequest -- asking a token endpoint for a grant

A grant comes from a final status 200 with a well-formed body and from nothing
else.  Every other end is a token failure: without a status when nobody was
reached, with the final status otherwise, and with the error that the endpoint
reports when it reports one in the standard form.  A refusal in another form is told
as text; when its text cannot be read, that stops the request.
-/
import TokenFlow.Document.Grant
import TokenFlow.World.Network

namespace TokenFlow.Provider

set_option autoImplicit false

open TokenFlow.Document

/-- The headers of a token request. -/
def tokenHeaders : List (String × String) :=
  [("content-type", "application/x-www-form-urlencoded"), ("accept", "application/json")]

/-- Why a response with another status than 200 is no grant. -/
def refusalOf (step : GrantStep) (response : Http.Response) : Except Foreign TokenFailure :=
  match Refusal.ofBody response.body with
  | .ok refusal => .ok (.refused step response.status refusal.error refusal.description)
  | .error _ => TokenFailure.status step response.status <$> response.text

/-- What is raised for a response with another status than 200. -/
def refuse (step : GrantStep) (response : Http.Response) : Fault :=
  match refusalOf step response with
  | .ok cause => .failure (.token cause)
  | .error cause => .foreign cause

/-- The grant in a response. -/
def grantOf (step : GrantStep) (response : Http.Response) : Except Fault Grant :=
  if response.status = 200 then
    match Grant.ofBody response.body with
    | .ok grant => .ok grant
    | .error issues => .error (.failure (.token (.invalid step response.status issues)))
  else .error (refuse step response)

/-- Posts a form to a token endpoint. -/
def requestGrant (step : GrantStep) (endpoint : String) (form : Http.Form) : WorldAct Grant := do
  World.newClient (.create none true)
  match ← World.fetch (.post endpoint form tokenHeaders) with
  | .error detail => Act.fail (.token (.unreachable step endpoint detail))
  | .ok response => Act.lift (grantOf step response)

end TokenFlow.Provider
