/-
# TokenFlow.Document.Grant -- what a token endpoint answers

A grant carries an access token and, when the issuer speaks the identity layer,
an identity token, which is then the one to present (`bearer`).  A refusal
carries an error and perhaps a description.
-/
import TokenFlow.Document.Field
import TokenFlow.Text.TitleCase

namespace TokenFlow.Document

set_option autoImplicit false

open TokenFlow.Json

/-- How long a credential lasts when the grant does not say, in seconds. -/
def defaultLifetime : Int := 3600

/-- A successful answer of a token endpoint. -/
structure Grant where
  accessToken : String
  tokenType : String
  expiresIn : Option Int
  scope : Option String
  refreshToken : Option String
  idToken : Option String
  deriving DecidableEq, Repr

namespace Grant

/-- Issuers differ in the case of the token type; what is no text counts as the usual type. -/
def normalTokenType : Option Value → String
  | some (.string text) => String.ofList (Text.titleCase text.toList)
  | _ => "Bearer"

def ofFields (fields : Fields) : Checked Grant :=
  Grant.mk <$> fields.requiredText "access_token"
    <*> pure (normalTokenType (fields.lookup "token_type"))
    <*> fields.optionalWhole "expires_in"
    <*> fields.optionalText "scope"
    <*> fields.optionalText "refresh_token"
    <*> fields.optionalText "id_token"

def ofBody (body : List UInt8) : Except (List Issue) Grant :=
  read ofFields body

/-- A nonempty identity token. -/
def identity? (grant : Grant) : Option String :=
  grant.idToken.filter (· ≠ "")

/-- A nonempty refresh token. -/
def renewal? (grant : Grant) : Option String :=
  grant.refreshToken.filter (· ≠ "")

/-- The credential to present: the identity token if there is one, else the access token. -/
def bearer (grant : Grant) : String :=
  grant.identity?.getD grant.accessToken

/-- The lifetime in seconds: as announced when that is positive. -/
def lifetime (grant : Grant) : Int :=
  match grant.expiresIn with
  | some seconds => if 0 < seconds then seconds else defaultLifetime
  | none => defaultLifetime

end Grant

/-- The error report of a token endpoint. -/
structure Refusal where
  error : String
  description : Option String
  uri : Option String
  extra : Fields

namespace Refusal

def ofFields (fields : Fields) : Checked Refusal :=
  Refusal.mk <$> fields.requiredText "error"
    <*> fields.optionalText "error_description"
    <*> fields.optionalText "error_uri"
    <*> pure (fields.others ["error", "error_description", "error_uri"])

def ofBody (body : List UInt8) : Except (List Issue) Refusal :=
  read ofFields body

end Refusal

end TokenFlow.Document
