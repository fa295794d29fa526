/-
# TokenFlow.Credential -- a bearer token and when it stops being usable

A credential is replaced, never changed.  Its end may be unknown, in which case
it is used for as long as it is kept.  Comparing with a buffer asks whether it
will still be usable that much later.
-/
import TokenFlow.Document.Grant
import TokenFlow.World.Basic

namespace TokenFlow

set_option autoImplicit false

open TokenFlow.Number

structure Credential where
  value : String
  /-- The clock at which it ends, when that is known. -/
  expiresAt : Option Amount
  deriving DecidableEq, Repr

namespace Credential

/-- Whether the credential has ended `buffer` after the clock. -/
def isExpired (credential : Credential) (clock buffer : Binary64) : Bool :=
  match credential.expiresAt with
  | none => false
  | some moment => moment.exact.le (clock.add buffer)

/-- The same with a buffer as given, which may be beyond all doubles. -/
def isExpiredIn? (credential : Credential) (clock : Binary64) (buffer : Amount) :
    Except Fault Bool :=
  match credential.expiresAt with
  | none => .ok false
  | some _ =>
      match buffer.toBinary64? with
      | some seconds => .ok (credential.isExpired clock seconds)
      | none => .error .overflow

/-- The credential that a grant gives at a moment. -/
def ofGrant (grant : Document.Grant) (clock : Binary64) : Except Fault Credential :=
  match Binary64.ofInt? grant.lifetime with
  | some lifetime => .ok ⟨grant.bearer, some (.real (clock.add lifetime))⟩
  | none => .error .overflow

end Credential

/-- What is kept for one cache key. -/
structure Credentials where
  token : Option Credential
  /-- Only logins with a code have one. -/
  refreshToken : Option String
  /-- Somebody is acquiring a token. -/
  locked : Bool
  deriving DecidableEq, Repr

namespace Credentials

def empty : Credentials := ⟨none, none, false⟩

/-- The kept token when it is still usable `buffer` after the clock. -/
def usable? (credentials : Credentials) (clock buffer : Binary64) : Option String :=
  match credentials.token with
  | some credential => if credential.isExpired clock buffer then none else some credential.value
  | none => none

end Credentials

/-- A caller at work: what is kept for its key, and the world. -/
structure Login where
  credentials : Credentials
  world : World

abbrev LoginAct (α : Type) := Act Login α

namespace Login

/-- An action on the world, as part of a login. -/
def inWorld {α : Type} (action : WorldAct α) : LoginAct α := fun login =>
  let (result, world) := action login.world
  (result, { login with world })

def keep (credential : Credential) : LoginAct Unit :=
  Act.update fun login =>
    { login with credentials := { login.credentials with token := some credential } }

def keepRefresh (refreshToken : Option String) : LoginAct Unit :=
  Act.update fun login =>
    { login with credentials := { login.credentials with refreshToken } }

def setLocked (locked : Bool) (login : Login) : Login :=
  { login with credentials := { login.credentials with locked } }

/-- Holds the lock of the key during an action, and releases it in any case. -/
def holding {α : Type} (action : LoginAct α) : LoginAct α := do
  Act.update (setLocked true)
  Act.thenAlways action (setLocked false)

/-- The kept token when it is still usable. -/
def reuse (buffer : Binary64) : LoginAct (Option String) := fun login =>
  (.ok (login.credentials.usable? login.world.clock buffer), login)

end Login

end TokenFlow
