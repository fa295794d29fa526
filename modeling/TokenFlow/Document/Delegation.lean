/-
# TokenFlow.Document.Delegation -- what a companion service answers

A delegated login starts with an initiation, which names a session and the page
to open, and is then observed through session reports.
-/
import TokenFlow.Document.Field

namespace TokenFlow.Document

set_option autoImplicit false

structure Initiation where
  session : String
  loginUrl : String
  extra : Fields

namespace Initiation

def ofFields (fields : Fields) : Checked Initiation :=
  Initiation.mk <$> fields.requiredText "session_uuid"
    <*> fields.requiredText "auth_url"
    <*> pure (fields.others ["session_uuid", "auth_url"])

def ofBody (body : List UInt8) : Except (List Issue) Initiation :=
  read ofFields body

end Initiation

structure SessionReport where
  status : String
  token : Option String
  error : Option String
  extra : Fields

namespace SessionReport

def ofFields (fields : Fields) : Checked SessionReport :=
  SessionReport.mk <$> fields.requiredText "status"
    <*> fields.optionalText "token"
    <*> fields.optionalText "error"
    <*> pure (fields.others ["status", "token", "error"])

def ofBody (body : List UInt8) : Except (List Issue) SessionReport :=
  read ofFields body

end SessionReport

end TokenFlow.Document
