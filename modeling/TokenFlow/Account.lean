/-
# TokenFlow.Account -- providers that share their credentials

An `Agent` is a vault in its world.  Opening an account gives a provider the cell
of its key, so that all accounts with one key use the same credentials, and one
login serves them all.
-/
import TokenFlow.Provider

namespace TokenFlow

set_option autoImplicit false

/-- Whoever logs in: what is kept, and the world. -/
structure Agent where
  vault : Vault
  world : World

abbrev AgentAct (α : Type) := Act Agent α

namespace Agent

def start (world : World) : Agent := ⟨.empty, world⟩

/-- An action on the world alone. -/
def inWorld {α : Type} (action : WorldAct α) : AgentAct α := fun agent =>
  let (result, world) := action agent.world
  (result, { agent with world })

end Agent

/-- A provider and the cell of its key. -/
structure Account where
  provider : Provider
  cell : Nat
  deriving DecidableEq, Repr

namespace Account

/-- Gives a provider its cell in a cache. -/
def ofProvider (cache : String) (provider : Provider) : AgentAct Account :=
  Act.step fun agent =>
    let (cell, vault) := agent.vault.cellFor cache provider.cacheKey
    (⟨provider, cell⟩, { agent with vault })

/-- What is kept for the account. -/
def credentials (account : Account) (agent : Agent) : Credentials :=
  agent.vault.read account.cell

/-- Whether two accounts share what is kept. -/
def shares (account other : Account) : Bool :=
  account.cell = other.cell

/-- Runs an action of a login on what is kept for the account. -/
def run {α : Type} (account : Account) (action : LoginAct α) : AgentAct α := fun agent =>
  let (result, login) := action ⟨account.credentials agent, agent.world⟩
  (result, ⟨agent.vault.write account.cell login.credentials, login.world⟩)

/-- Puts credentials in the place of the kept ones; the lock stays as it is. -/
def put (account : Account) (token : Option Credential) (refreshToken : Option String) :
    AgentAct Unit :=
  account.run (Act.update fun login =>
    { login with credentials := { login.credentials with token, refreshToken } })

def getToken (account : Account) : AgentAct String :=
  account.run account.provider.getToken

/-- A token for a caller who finds the lock taken by somebody who then puts
credentials.  A kept token that lasts is returned without waiting. -/
def getTokenBehind (account : Account) (token : Option Credential)
    (refreshToken : Option String) : AgentAct String := do
  let kept ← account.run (Login.reuse account.provider.buffer)
  account.put token refreshToken
  match kept with
  | some value => pure value
  | none => account.run account.provider.acquireLocked

/-- The tokens of several callers at once.  The lock lets one of them through at
a time, and a failure of one is not one of the others. -/
def getTokens : List Account → AgentAct (List (Except Fault String))
  | [] => pure []
  | account :: accounts => fun agent =>
      let (result, agent) := account.getToken agent
      match getTokens accounts agent with
      | (.ok results, agent) => (.ok (result :: results), agent)
      | (.error fault, agent) => (.error fault, agent)

/-! ## Authorized requests -/

/-- Whether a client may wait while a login goes on. -/
inductive ClientKind where
  | waiting
  | blocking
  deriving DecidableEq, Repr

/-- The `Authorization` header of a request that has other headers, which are
written in ASCII. -/
def authorization (account : Account) (kind : ClientKind) (headers : List (String × String)) :
    AgentAct String := do
  if headers.all fun field => Text.Utf8.isAscii field.1.toList && Text.Utf8.isAscii field.2.toList
  then
    match kind with
    | .blocking => Act.raise .blockingClient
    | .waiting => do
        let token ← account.getToken
        pure ("Bearer " ++ token)
  else Act.raise .notAscii

end Account

end TokenFlow
