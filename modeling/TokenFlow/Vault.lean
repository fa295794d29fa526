/-
# TokenFlow.Vault -- credentials by cache key

A cache maps keys to cells, and a cell is what all providers with one key share.
Cells are never removed: clearing a cache forgets which cell a key had, and a
provider that was built before keeps its cell.  Caches have names; the one named
`defaultCache` serves providers that are given none.
-/
import TokenFlow.Credential
import TokenFlow.Url.Base

namespace TokenFlow

set_option autoImplicit false

/-! ## Keys -/

/-- The key of a login with a code: one per token endpoint and client. -/
def codeKey (tokenEndpoint clientId : String) : String :=
  "authorization_code|" ++ tokenEndpoint ++ "|" ++ clientId

/-- The key of a delegated login: one per base address, trailing slashes aside. -/
def delegatedKey (baseUrl : String) : String :=
  "server_side|" ++ Url.withoutTrailingSlashes baseUrl

/-! ## Caches -/

/-- The cells of a cache, by key, in the order of their creation. -/
abbrev CacheIndex := List (String × Nat)

structure Vault where
  cells : List Credentials
  caches : List (String × CacheIndex)

namespace Vault

def defaultCache : String := "default"

def empty : Vault := ⟨[], []⟩

/-- The index of a cache; a cache that nobody used is empty. -/
def index (vault : Vault) (cache : String) : CacheIndex :=
  (vault.caches.lookup cache).getD []

def setIndex (vault : Vault) (cache : String) (index : CacheIndex) : Vault :=
  { vault with caches := (cache, index) :: vault.caches.filter (·.1 ≠ cache) }

/-- The cell of a key, made on first use. -/
def cellFor (vault : Vault) (cache key : String) : Nat × Vault :=
  match (vault.index cache).lookup key with
  | some cell => (cell, vault)
  | none =>
      let cell := vault.cells.length
      (cell,
        { vault with cells := vault.cells ++ [Credentials.empty] }.setIndex cache
          (vault.index cache ++ [(key, cell)]))

def read (vault : Vault) (cell : Nat) : Credentials :=
  vault.cells.getD cell Credentials.empty

def write (vault : Vault) (cell : Nat) (credentials : Credentials) : Vault :=
  { vault with cells := vault.cells.set cell credentials }

def contains (vault : Vault) (cache key : String) : Bool :=
  ((vault.index cache).lookup key).isSome

def size (vault : Vault) (cache : String) : Nat :=
  (vault.index cache).length

def clear (vault : Vault) (cache : String) : Vault :=
  vault.setIndex cache []

end Vault

end TokenFlow
