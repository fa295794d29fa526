/-
# TokenFlow.Provider -- whoever supplies the bearer token

There are two kinds of login, and both are used in the same way: a kept token is
returned while it lasts, and otherwise a new one is acquired under the lock of
the cache key.
-/
import TokenFlow.Provider.Code
import TokenFlow.Provider.Delegated

namespace TokenFlow

set_option autoImplicit false

open TokenFlow.Number

inductive Provider where
  | code (provider : CodeProvider)
  | delegated (provider : DelegatedProvider)
  deriving DecidableEq, Repr

namespace Provider

def cacheKey : Provider → String
  | .code provider => provider.cacheKey
  | .delegated provider => provider.cacheKey

/-- How much longer a kept token has to last to be used. -/
def buffer : Provider → Binary64
  | .code _ => CodeProvider.buffer
  | .delegated _ => DelegatedProvider.buffer

/-- A token under the lock of the key: kept in the meantime, or acquired. -/
def acquireLocked : Provider → LoginAct String
  | .code provider => provider.acquireLocked
  | .delegated provider => provider.acquireLocked

/-- A token: kept, or acquired. -/
def getToken : Provider → LoginAct String
  | .code provider => provider.getToken
  | .delegated provider => provider.getToken

end Provider

end TokenFlow
