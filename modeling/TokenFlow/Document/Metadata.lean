/-
# TokenFlow.Document.Metadata -- what an issuer publishes about itself

Only the two endpoints matter to a login; they are kept exactly as published.
The other known members are checked all the same.
-/
import TokenFlow.Document.Field

namespace TokenFlow.Document

set_option autoImplicit false

structure Metadata where
  issuer : Option String
  authorizationEndpoint : Option String
  tokenEndpoint : Option String
  userinfoEndpoint : Option String
  keySetUri : Option String
  scopes : Option (List String)
  challengeMethods : Option (List String)
  extra : Fields

namespace Metadata

def knownFields : List String :=
  ["issuer", "authorization_endpoint", "token_endpoint", "userinfo_endpoint", "jwks_uri",
    "scopes_supported", "code_challenge_methods_supported"]

def ofFields (fields : Fields) : Checked Metadata :=
  Metadata.mk <$> fields.optionalText "issuer"
    <*> fields.optionalText "authorization_endpoint"
    <*> fields.optionalText "token_endpoint"
    <*> fields.optionalText "userinfo_endpoint"
    <*> fields.optionalText "jwks_uri"
    <*> fields.optionalTexts "scopes_supported"
    <*> fields.optionalTexts "code_challenge_methods_supported"
    <*> pure (fields.others knownFields)

def ofBody (body : List UInt8) : Except (List Issue) Metadata :=
  read ofFields body

end Metadata

end TokenFlow.Document
