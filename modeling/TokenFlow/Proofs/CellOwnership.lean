/-
# TokenFlow.Proofs.CellOwnership -- one key, one cell, for as long as a cache is kept

A cache gives a key its cell on first use and the same cell ever after.  `Indexed`
says what makes that safe: the cells of a cache exist, and no two of its keys have
the same one.  Opening an account keeps it (`cellFor_indexed`), and so does everything
else a program does with its accounts, short of clearing the cache.

`History` is a program that builds providers and asks them for tokens, in any order
and in any worlds.  After any history two accounts of one cache share what is kept
exactly when their keys are equal (`shares_iff_cacheKey_eq`).
-/
import TokenFlow.Account

namespace TokenFlow

set_option autoImplicit false

open TokenFlow.Number

/-! ## Caches -/

namespace Vault

theorem lookup_filter_ne {α : Type} (entries : List (String × α)) {name other : String}
    (ne : other ≠ name) : (entries.filter (·.1 ≠ name)).lookup other = entries.lookup other := by
  induction entries with
  | nil => rfl
  | cons entry entries ih =>
      obtain ⟨key, value⟩ := entry
      by_cases h : key = name
      · rw [List.filter_cons_of_neg (by simp [h]), ih, List.lookup_cons,
          beq_false_of_ne (h ▸ ne)]
      · rw [List.filter_cons_of_pos (by simpa using h), List.lookup_cons, List.lookup_cons, ih]

/-- Changing the index of a cache leaves those of the others. -/
theorem index_setIndex (vault : Vault) (cache other : String) (index : CacheIndex) :
    (vault.setIndex cache index).index other =
      if other = cache then index else vault.index other := by
  unfold Vault.index setIndex
  by_cases h : other = cache
  · simp [h]
  · have missed : (other == cache) = false := by simp [h]
    simp only [List.lookup_cons, missed, if_neg h]
    rw [lookup_filter_ne vault.caches h]

/-- The cells of a cache exist, and no two of its keys have the same one. -/
structure Indexed (vault : Vault) (cache : String) : Prop where
  bounded : ∀ {key cell}, (vault.index cache).lookup key = some cell → cell < vault.cells.length
  injective : ∀ {key other cell}, (vault.index cache).lookup key = some cell →
    (vault.index cache).lookup other = some cell → key = other

/-- A cache keeps being indexed while its own index stays and no cell is lost. -/
theorem Indexed.congr {vault after : Vault} {cache : String} (indexed : vault.Indexed cache)
    (index : after.index cache = vault.index cache)
    (cells : vault.cells.length ≤ after.cells.length) : after.Indexed cache where
  bounded found := by
    rw [index] at found
    exact Nat.lt_of_lt_of_le (indexed.bounded found) cells
  injective first second := by
    rw [index] at first second
    exact indexed.injective first second

theorem empty_indexed (cache : String) : Vault.empty.Indexed cache where
  bounded found := by simp [Vault.index, Vault.empty] at found
  injective found := by simp [Vault.index, Vault.empty] at found

theorem cellFor_of_some {vault : Vault} {cache key : String} {cell : Nat}
    (found : (vault.index cache).lookup key = some cell) :
    vault.cellFor cache key = (cell, vault) := by
  simp [cellFor, found]

/-- The index after a key got its first cell. -/
theorem index_cellFor_of_none {vault : Vault} {cache key : String}
    (missing : (vault.index cache).lookup key = none) (other : String) :
    (vault.cellFor cache key).2.index other =
      if other = cache then vault.index cache ++ [(key, vault.cells.length)]
      else vault.index other := by
  simp only [cellFor, missing, index_setIndex]
  rfl

theorem length_cells_cellFor (vault : Vault) (cache key : String) :
    vault.cells.length ≤ (vault.cellFor cache key).2.cells.length := by
  unfold cellFor
  split
  · exact Nat.le_refl _
  · simp [setIndex]

/-- The cell that a key is given is the one that is found for it afterwards. -/
theorem lookup_cellFor (vault : Vault) (cache key : String) :
    ((vault.cellFor cache key).2.index cache).lookup key = some (vault.cellFor cache key).1 := by
  cases found : (vault.index cache).lookup key with
  | some cell => rw [cellFor_of_some found, found]
  | none =>
      rw [index_cellFor_of_none found, if_pos rfl, List.lookup_append, found]
      simp [cellFor, found]

/-- No key loses its cell. -/
theorem lookup_cellFor_of_some {vault : Vault} {cache other : String} {key : String} {cell : Nat}
    (found : (vault.index other).lookup key = some cell) (opened : String) :
    ((vault.cellFor cache opened).2.index other).lookup key = some cell := by
  cases known : (vault.index cache).lookup opened with
  | some kept => rw [cellFor_of_some known, found]
  | none =>
      rw [index_cellFor_of_none known]
      split
      · rename_i same
        rw [← same, List.lookup_append, found]
        rfl
      · exact found

theorem cellFor_indexed {vault : Vault} {cache : String} (indexed : vault.Indexed cache)
    (other key : String) : (vault.cellFor other key).2.Indexed cache := by
  cases known : (vault.index other).lookup key with
  | some kept => rw [cellFor_of_some known]; exact indexed
  | none =>
      have grown := length_cells_cellFor vault other key
      by_cases same : cache = other
      · subst same
        -- the new cell lies beyond all cells so far, so no other key has it
        have split : ∀ {name cell},
            ((vault.cellFor cache key).2.index cache).lookup name = some cell →
              ((vault.index cache).lookup name = some cell ∧ cell < vault.cells.length) ∨
                (name = key ∧ cell = vault.cells.length) := by
          intro name cell found
          rw [index_cellFor_of_none known, if_pos rfl, List.lookup_append] at found
          cases earlier : (vault.index cache).lookup name with
          | some kept =>
              rw [earlier] at found
              obtain rfl : kept = cell := by simpa using found
              exact .inl ⟨rfl, indexed.bounded earlier⟩
          | none =>
              rw [earlier] at found
              by_cases h : name = key
              · exact .inr ⟨h, by simpa [h, eq_comm] using found⟩
              · have missed : (name == key) = false := by simp [h]
                simp [List.lookup_cons, missed] at found
        have length : (vault.cellFor cache key).2.cells.length = vault.cells.length + 1 := by
          simp [cellFor, known, setIndex]
        refine ⟨fun found => ?_, fun first second => ?_⟩
        · rcases split found with ⟨-, lt⟩ | ⟨-, rfl⟩ <;> omega
        · rcases split first with ⟨one, lt⟩ | ⟨rfl, rfl⟩ <;>
            rcases split second with ⟨two, lt'⟩ | ⟨rfl, h⟩
          · exact indexed.injective one two
          · omega
          · omega
          · rfl
      · refine indexed.congr ?_ grown
        rw [index_cellFor_of_none known, if_neg same]

theorem write_indexed {vault : Vault} {cache : String} (indexed : vault.Indexed cache)
    (cell : Nat) (credentials : Credentials) : (vault.write cell credentials).Indexed cache :=
  indexed.congr rfl (by simp [write])

theorem read_write {vault : Vault} {cell : Nat} (inside : cell < vault.cells.length)
    (credentials : Credentials) : (vault.write cell credentials).read cell = credentials := by
  simp [read, write, inside]

theorem index_clear (vault : Vault) {cache other : String} (ne : other ≠ cache) :
    (vault.clear cache).index other = vault.index other := by
  rw [clear, index_setIndex, if_neg ne]

end Vault

/-! ## Histories -/

/-- A provider as it is asked for: the arguments of its constructor. -/
inductive Design where
  | code (provider : CodeProvider)
  | delegated (baseUrl : String) (disableVerification : Bool) (pollInterval pollTimeout : Amount)
  deriving DecidableEq, Repr

namespace Design

/-- The provider, unless an argument is refused. -/
def provider? : Design → Except Fault Provider
  | .code provider => .code <$> provider.check
  | .delegated baseUrl disableVerification pollInterval pollTimeout =>
      .delegated <$>
        DelegatedProvider.create baseUrl disableVerification pollInterval pollTimeout

/-- Builds the provider on a cache. -/
def openOn (design : Design) (cache : String) : AgentAct Account := do
  Account.ofProvider cache (← Act.lift design.provider?)

end Design

/-- What a program does with its caches. -/
inductive Deed where
  | build (cache : String) (design : Design)
  /-- The account built at a place asks for a token, in any world. -/
  | getToken (place : Nat) (world : World)
  | clear (cache : String)

/-- An account, with what it was built from. -/
structure Member where
  cache : String
  design : Design
  account : Account
  deriving DecidableEq, Repr

/-- What a program holds: an agent, and the accounts in the order they were built. -/
structure History where
  agent : Agent
  members : List Member

namespace History

def start (world : World) : History := ⟨.start world, []⟩

def perform (history : History) : Deed → History
  | .build cache design =>
      match design.openOn cache history.agent with
      | (.ok account, agent) => ⟨agent, history.members ++ [⟨cache, design, account⟩]⟩
      | (.error _, agent) => { history with agent }
  | .getToken place world =>
      match history.members[place]? with
      | some member =>
          { history with agent := (member.account.getToken { history.agent with world }).2 }
      | none => history
  | .clear cache =>
      { history with agent := { history.agent with vault := history.agent.vault.clear cache } }

def run (world : World) (deeds : List Deed) : History :=
  deeds.foldl perform (start world)

/-- Every account built on a cache has the cell that its key has there. -/
structure Sound (history : History) (cache : String) : Prop where
  indexed : history.agent.vault.Indexed cache
  built : ∀ member ∈ history.members, member.cache = cache →
    member.design.provider? = .ok member.account.provider ∧
      (history.agent.vault.index cache).lookup member.account.provider.cacheKey =
        some member.account.cell

/-- Building either is refused and changes nothing, or opens the cell of the key. -/
theorem openOn_cases (design : Design) (cache : String) (agent : Agent) :
    (∃ fault, design.openOn cache agent = (.error fault, agent)) ∨
      ∃ provider, design.provider? = .ok provider ∧
        design.openOn cache agent =
          (.ok ⟨provider, (agent.vault.cellFor cache provider.cacheKey).1⟩,
            { agent with vault := (agent.vault.cellFor cache provider.cacheKey).2 }) := by
  cases made : design.provider? with
  | error fault => exact .inl ⟨fault, by simp [Design.openOn, Act.bind_apply, Act.lift, made]⟩
  | ok provider =>
      refine .inr ⟨provider, rfl, ?_⟩
      simp [Design.openOn, Act.bind_apply, Act.lift, made, Account.ofProvider, Act.step]

theorem perform_sound {history : History} {cache : String} (sound : history.Sound cache)
    {deed : Deed} (kept : deed ≠ .clear cache) : (history.perform deed).Sound cache := by
  cases deed with
  | build other design =>
      rcases openOn_cases design other history.agent with ⟨fault, opened⟩ | ⟨provider, made, opened⟩
      · simp only [perform, opened]
        exact sound
      · simp only [perform, opened]
        refine ⟨Vault.cellFor_indexed sound.indexed _ _, fun member found same => ?_⟩
        rcases List.mem_append.mp found with old | new
        · obtain ⟨designed, cell⟩ := sound.built member old same
          exact ⟨designed, Vault.lookup_cellFor_of_some cell _⟩
        · obtain rfl : member = _ := List.mem_singleton.mp new
          simp only at same
          subst same
          exact ⟨made, Vault.lookup_cellFor _ _ _⟩
  | getToken place world =>
      simp only [perform]
      split
      · exact ⟨Vault.write_indexed sound.indexed _ _, sound.built⟩
      · exact sound
  | clear other =>
      have ne : cache ≠ other := fun same => kept (by rw [same])
      have index := history.agent.vault.index_clear ne
      refine ⟨sound.indexed.congr index (Nat.le_refl _), fun member found same => ?_⟩
      simp only [perform, index]
      exact sound.built member found same

theorem run_sound (world : World) {deeds : List Deed} {cache : String}
    (kept : .clear cache ∉ deeds) : (run world deeds).Sound cache := by
  have folded : ∀ (deeds : List Deed) (history : History), history.Sound cache →
      .clear cache ∉ deeds → (deeds.foldl perform history).Sound cache := by
    intro deeds
    induction deeds with
    | nil => exact fun _ sound _ => sound
    | cons deed deeds ih =>
        intro history sound kept
        rw [List.mem_cons, not_or] at kept
        exact ih _ (perform_sound sound (Ne.symm kept.1)) kept.2
  exact folded deeds (start world) ⟨Vault.empty_indexed cache, by simp [start]⟩ kept

/-- Accounts of one cache share what is kept exactly when their keys are equal. -/
theorem shares_iff_cacheKey_eq {history : History} {cache : String} (sound : history.Sound cache)
    {first second : Member} (one : first ∈ history.members) (two : second ∈ history.members)
    (onCache : first.cache = cache) (onSame : second.cache = cache) :
    first.account.shares second.account = true ↔
      first.account.provider.cacheKey = second.account.provider.cacheKey := by
  obtain ⟨-, cell⟩ := sound.built first one onCache
  obtain ⟨-, other⟩ := sound.built second two onSame
  simp only [Account.shares, decide_eq_true_eq]
  constructor
  · intro same
    rw [← same] at other
    exact sound.indexed.injective cell other
  · intro same
    rw [same, other] at cell
    exact (Option.some.inj cell).symm

end History

end TokenFlow
