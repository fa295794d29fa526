/-
# TokenFlow.Proofs.HistoryCalls -- what each call of a history finds and leaves

A history is a list of deeds, and some of them are calls for a token.  Of all that a
program holds, a call finds what is kept in the cell of its account, and nothing but a call
on the same cell changes what is kept there (`read_perform`).  So the calls on one cell are
linked: each finds what the one before it left (`linked_calls`).

A cell belongs to one key of one cache for good: whatever leads to it, an index or an
account, names the same cache and key (`Owned`).  While a cache is not cleared, its
accounts with one key have one cell, and so their calls are the calls on that cell
(`callsFor_eq_callsOn`).
-/
import Mathlib.Logic.Function.Basic
import TokenFlow.Proofs.Acquisition
import TokenFlow.Proofs.CellOwnership

namespace TokenFlow

set_option autoImplicit false

/-! ## Cells -/

/-- A key of a cache. -/
structure Slot where
  cache : String
  key : String
  deriving DecidableEq, Repr

namespace Vault

/-- What is kept for a key; there is nothing before the key gets its cell. -/
def kept (vault : Vault) (slot : Slot) : Credentials :=
  match (vault.index slot.cache).lookup slot.key with
  | some cell => vault.read cell
  | none => Credentials.empty

theorem kept_of_lookup {vault : Vault} {slot : Slot} {cell : Nat}
    (found : (vault.index slot.cache).lookup slot.key = some cell) :
    vault.kept slot = vault.read cell := by
  simp [kept, found]

theorem read_write_of_ne {cell other : Nat} (ne : other ≠ cell) (vault : Vault)
    (credentials : Credentials) : (vault.write cell credentials).read other = vault.read other := by
  simp [read, write, List.getD_eq_getElem?_getD, List.getElem?_set_ne ne.symm]

/-- Writing what is there changes nothing. -/
theorem write_read (vault : Vault) (cell : Nat) : vault.write cell (vault.read cell) = vault := by
  unfold write read
  by_cases inside : cell < vault.cells.length
  · have there : vault.cells.getD cell Credentials.empty = vault.cells[cell] := by simp [inside]
    rw [there, List.set_getElem_self]
  · rw [List.set_eq_of_length_le (Nat.le_of_not_lt inside)]

/-- A key either has its cell already, or is given one behind all others. -/
theorem cellFor_cases (vault : Vault) (cache key : String) :
    ((vault.index cache).lookup key = some (vault.cellFor cache key).1 ∧
        (vault.cellFor cache key).2 = vault) ∨
      ((vault.cellFor cache key).1 = vault.cells.length ∧
        (vault.cellFor cache key).2.cells = vault.cells ++ [Credentials.empty]) := by
  cases known : (vault.index cache).lookup key with
  | some cell => simp [cellFor_of_some known]
  | none => simp [cellFor, known, setIndex]

/-- A new cell is empty, so it changes nothing of what is kept. -/
theorem read_cellFor (vault : Vault) (cache key : String) (cell : Nat) :
    (vault.cellFor cache key).2.read cell = vault.read cell := by
  rcases vault.cellFor_cases cache key with ⟨-, same⟩ | ⟨-, cells⟩
  · rw [same]
  · simp only [read, cells, List.getD_eq_getElem?_getD, List.getElem?_append]
    by_cases inside : cell < vault.cells.length
    · rw [if_pos inside]
    · have beyond : vault.cells[cell]? = none := by simpa using inside
      rw [if_neg inside, beyond]
      cases cell - vault.cells.length <;> simp

theorem cellFor_inside (vault : Vault) (cache key : String) {cell : Nat}
    (inside : cell < vault.cells.length) : cell < (vault.cellFor cache key).2.cells.length :=
  Nat.lt_of_lt_of_le inside (length_cells_cellFor vault cache key)

/-- Opening a key gives it its cell, and no other key one. -/
theorem lookup_of_lookup_cellFor {vault : Vault} {cache other key name : String} {cell : Nat}
    (found : ((vault.cellFor cache key).2.index other).lookup name = some cell) :
    (vault.index other).lookup name = some cell ∨
      (other = cache ∧ name = key ∧ cell = (vault.cellFor cache key).1) := by
  by_cases opened : other = cache ∧ name = key
  · obtain ⟨rfl, rfl⟩ := opened
    rw [lookup_cellFor] at found
    exact .inr ⟨rfl, rfl, (Option.some.inj found).symm⟩
  · left
    cases known : (vault.index cache).lookup key with
    | some kept => rwa [cellFor_of_some known] at found
    | none =>
        rw [index_cellFor_of_none known] at found
        by_cases same : other = cache
        · have missed : (name == key) = false := by
            simp only [beq_eq_false_iff_ne]
            intro h
            exact opened ⟨same, h⟩
          rw [if_pos same, List.lookup_append] at found
          simpa [List.lookup_cons, missed, same] using found
        · rwa [if_neg same] at found

end Vault

/-! ## Calls -/

/-- The key that an account was built for. -/
def Member.slot (member : Member) : Slot :=
  ⟨member.cache, member.account.provider.cacheKey⟩

/-- A token that is usable is the result, and the agent is as before. -/
theorem Account.getToken_of_usable {account : Account} {agent : Agent} {value : String}
    (usable : (account.credentials agent).usable? agent.world.clock account.provider.buffer =
      some value) :
    account.getToken agent = (.ok value, agent) := by
  have called : account.provider.getToken ⟨agent.vault.read account.cell, agent.world⟩ =
      (.ok value, ⟨agent.vault.read account.cell, agent.world⟩) :=
    Provider.getToken_of_usable usable
  simp only [getToken, run, credentials, called, Vault.write_read]

/-- An account that asks for a token, and the agent that it asks. -/
structure Call where
  member : Member
  agent : Agent

namespace Call

def provider (call : Call) : Provider :=
  call.member.account.provider

def cell (call : Call) : Nat :=
  call.member.account.cell

/-- What is kept when it is made. -/
def found (call : Call) : Credentials :=
  call.agent.vault.read call.cell

/-- What it comes to. -/
def result (call : Call) : Except Fault String :=
  (call.member.account.getToken call.agent).1

def after (call : Call) : Agent :=
  (call.member.account.getToken call.agent).2

/-- The login that it is: with what is kept, in the world that it finds. -/
def login (call : Call) : Login :=
  ⟨call.found, call.agent.world⟩

/-- What is kept after it. -/
def left (call : Call) : Credentials :=
  (call.provider.getToken call.login).2.credentials

theorem result_eq (call : Call) : call.result = (call.provider.getToken call.login).1 :=
  rfl

theorem vault_after (call : Call) :
    call.after.vault = call.agent.vault.write call.cell call.left :=
  rfl

variable {call : Call} {value : String}

/-- A call that finds a usable token comes to it, and leaves what it found. -/
theorem of_usable
    (look : call.found.usable? call.agent.world.clock call.provider.buffer = some value) :
    call.result = .ok value ∧ call.left = call.found := by
  have called : call.provider.getToken call.login = (.ok value, call.login) :=
    Provider.getToken_of_usable look
  rw [result_eq, left, called]
  exact ⟨rfl, rfl⟩

theorem result_of_toOption (came : call.result.toOption = some value) :
    call.result = .ok value := by
  cases result : call.result with
  | error fault =>
      rw [result] at came
      cases came
  | ok token =>
      rw [result] at came
      rw [Option.some.inj came]

end Call

/-- Each call found what the one before it left. -/
def Linked : Credentials → List Call → Credentials → Prop
  | first, [], last => last = first
  | first, call :: calls, last => call.found = first ∧ Linked call.left calls last

theorem Linked.of_append {first last : Credentials} {earlier later : List Call} {call : Call}
    (linked : Linked first (earlier ++ call :: later) last) : Linked first earlier call.found := by
  induction earlier generalizing first with
  | nil => exact linked.1
  | cons one earlier ih => exact ⟨linked.1, ih linked.2⟩

namespace History

/-! ## The calls of a history -/

/-- The call that a deed is, if there is an account to make it. -/
def call? (history : History) : Deed → Option Call
  | .getToken place world =>
      history.members[place]?.map fun member => ⟨member, { history.agent with world }⟩
  | .build _ _ | .clear _ => none

/-- The calls that are made in the course of some deeds. -/
def calls : History → List Deed → List Call
  | _, [] => []
  | history, deed :: deeds => (history.call? deed).toList ++ (history.perform deed).calls deeds

def callsOn (history : History) (cell : Nat) (deeds : List Deed) : List Call :=
  (history.calls deeds).filter (·.cell = cell)

def callsFor (history : History) (slot : Slot) (deeds : List Deed) : List Call :=
  (history.calls deeds).filter (·.member.slot = slot)

theorem perform_of_call? {history : History} {deed : Deed} {call : Call}
    (made : history.call? deed = some call) :
    history.perform deed = { history with agent := call.after } ∧
      call.member ∈ history.members ∧ call.agent.vault = history.agent.vault := by
  cases deed with
  | getToken place world =>
      obtain ⟨member, built, rfl⟩ := Option.map_eq_some_iff.mp made
      refine ⟨?_, List.mem_of_getElem? built, rfl⟩
      simp only [perform, built]
      rfl
  | build cache design => cases made
  | clear cache => cases made

/-- What is no call leaves every cell as it is. -/
theorem read_perform_of_none {history : History} {deed : Deed}
    (silent : history.call? deed = none) (cell : Nat) :
    (history.perform deed).agent.vault.read cell = history.agent.vault.read cell := by
  cases deed with
  | getToken place world =>
      have absent : history.members[place]? = none := by simpa [call?] using silent
      simp only [perform, absent]
  | build cache design =>
      rcases openOn_cases design cache history.agent with ⟨fault, opened⟩ | ⟨provider, -, opened⟩
      · simp only [perform, opened]
      · simp only [perform, opened]
        exact Vault.read_cellFor _ _ _ _
  | clear cache => rfl

/-- Members are never lost. -/
theorem members_perform (history : History) (deed : Deed) {member : Member}
    (built : member ∈ history.members) : member ∈ (history.perform deed).members := by
  cases deed with
  | getToken place world =>
      simp only [perform]
      split <;> exact built
  | build cache design =>
      rcases openOn_cases design cache history.agent with ⟨fault, opened⟩ | ⟨provider, -, opened⟩
      · simp only [perform, opened]
        exact built
      · simp only [perform, opened]
        exact List.mem_append_left _ built
  | clear cache => exact built

theorem members_foldl (history : History) (deeds : List Deed) {member : Member}
    (built : member ∈ history.members) : member ∈ (deeds.foldl perform history).members := by
  induction deeds generalizing history with
  | nil => exact built
  | cons deed deeds ih => exact ih _ (history.members_perform deed built)

/-- Whoever calls is a member. -/
theorem member_mem_of_calls {history : History} {deeds : List Deed} {call : Call}
    (made : call ∈ history.calls deeds) :
    call.member ∈ (deeds.foldl perform history).members := by
  induction deeds generalizing history with
  | nil => cases made
  | cons deed deeds ih =>
      rcases List.mem_append.mp made with here | later
      · have built := (perform_of_call? (Option.mem_toList.mp here)).2.1
        exact members_foldl _ (deed :: deeds) built
      · exact ih later

/-! ## Owners of cells -/

/-- Whatever leads to a cell, an index or an account, names the same cache and key. -/
structure Owned (history : History) (owner : Nat → Slot) : Prop where
  indexed : ∀ {cache key cell}, (history.agent.vault.index cache).lookup key = some cell →
    cell < history.agent.vault.cells.length ∧ owner cell = ⟨cache, key⟩
  built : ∀ member ∈ history.members,
    member.account.cell < history.agent.vault.cells.length ∧
      owner member.account.cell = member.slot

theorem start_owned (world : World) (owner : Nat → Slot) : (start world).Owned owner where
  indexed found := by simp [start, Agent.start, Vault.index, Vault.empty] at found
  built member found := by simp [start] at found

/-- Ownership is kept while no cell is lost and nothing new leads to one. -/
theorem Owned.congr {history after : History} {owner : Nat → Slot} (owned : history.Owned owner)
    (cells : history.agent.vault.cells.length ≤ after.agent.vault.cells.length)
    (index : ∀ {cache key cell}, (after.agent.vault.index cache).lookup key = some cell →
      (history.agent.vault.index cache).lookup key = some cell)
    (members : after.members = history.members) : after.Owned owner where
  indexed found := by
    obtain ⟨inside, named⟩ := owned.indexed (index found)
    exact ⟨Nat.lt_of_lt_of_le inside cells, named⟩
  built member found := by
    rw [members] at found
    obtain ⟨inside, named⟩ := owned.built member found
    exact ⟨Nat.lt_of_lt_of_le inside cells, named⟩

/-- A new account has the cell of its key, which may be new. -/
theorem Owned.build {history : History} {owner : Nat → Slot} (owned : history.Owned owner)
    (cache : String) (design : Design) (provider : Provider) :
    let opened := history.agent.vault.cellFor cache provider.cacheKey
    ∃ owner, Owned ⟨{ history.agent with vault := opened.2 },
      history.members ++ [⟨cache, design, ⟨provider, opened.1⟩⟩]⟩ owner := by
  intro opened
  let slot : Slot := ⟨cache, provider.cacheKey⟩
  -- the cells that were there keep their owners, the opened one among them
  have same : ∀ cell < history.agent.vault.cells.length,
      Function.update owner opened.1 slot cell = owner cell := by
    intro cell inside
    by_cases here : cell = opened.1
    · rcases history.agent.vault.cellFor_cases cache provider.cacheKey with
        ⟨known, -⟩ | ⟨new, -⟩
      · rw [here, Function.update_self]
        exact (owned.indexed known).2.symm
      · have beyond : opened.1 = history.agent.vault.cells.length := new
        omega
    · rw [Function.update_of_ne here]
  have mine : opened.1 < opened.2.cells.length := by
    rcases history.agent.vault.cellFor_cases cache provider.cacheKey with ⟨known, -⟩ | ⟨new, cells⟩
    · exact Vault.cellFor_inside _ _ _ (owned.indexed known).1
    · show (history.agent.vault.cellFor cache provider.cacheKey).1 < _
      rw [new]
      show _ < (history.agent.vault.cellFor cache provider.cacheKey).2.cells.length
      rw [cells]
      simp
  have yours : ∀ {cell}, cell < history.agent.vault.cells.length → cell < opened.2.cells.length :=
    fun inside => Vault.cellFor_inside _ _ _ inside
  refine ⟨Function.update owner opened.1 slot, fun found => ?_, fun member found => ?_⟩
  · rcases Vault.lookup_of_lookup_cellFor found with old | ⟨rfl, rfl, rfl⟩
    · obtain ⟨inside, named⟩ := owned.indexed old
      exact ⟨yours inside, (same _ inside).trans named⟩
    · exact ⟨mine, Function.update_self ..⟩
  · rcases List.mem_append.mp found with old | new
    · obtain ⟨inside, named⟩ := owned.built member old
      exact ⟨yours inside, (same _ inside).trans named⟩
    · rw [List.mem_singleton.mp new]
      exact ⟨mine, Function.update_self ..⟩

theorem perform_owned {history : History} {owner : Nat → Slot} (owned : history.Owned owner)
    (deed : Deed) : ∃ owner, (history.perform deed).Owned owner := by
  cases deed with
  | build cache design =>
      rcases openOn_cases design cache history.agent with ⟨fault, opened⟩ | ⟨provider, -, opened⟩
      · simp only [perform, opened]
        exact ⟨owner, owned⟩
      · simp only [perform, opened]
        exact owned.build cache design provider
  | getToken place world =>
      simp only [perform]
      split
      · refine ⟨owner, owned.congr ?_ id rfl⟩
        simp [Account.getToken, Account.run, Vault.write]
      · exact ⟨owner, owned⟩
  | clear cache =>
      refine ⟨owner, owned.congr (Nat.le_refl _) (fun {other key cell} found => ?_) rfl⟩
      simp only [perform, Vault.clear, Vault.index_setIndex] at found
      by_cases same : other = cache
      · simp [same] at found
      · rwa [if_neg same] at found

theorem foldl_owned {history : History} {owner : Nat → Slot} (owned : history.Owned owner)
    (deeds : List Deed) : ∃ owner, (deeds.foldl perform history).Owned owner := by
  induction deeds generalizing history owner with
  | nil => exact ⟨owner, owned⟩
  | cons deed deeds ih =>
      obtain ⟨owner', owned'⟩ := perform_owned owned deed
      exact ih owned'

theorem run_owned (world : World) (deeds : List Deed) : ∃ owner, (run world deeds).Owned owner :=
  foldl_owned (start_owned world fun _ => ⟨"", ""⟩) deeds

/-! ## Calls on one cell -/

/-- A deed changes a cell only by a call on it. -/
theorem read_perform {history : History} {owner : Nat → Slot} (owned : history.Owned owner)
    {deed : Deed} {call : Call} (made : history.call? deed = some call) (cell : Nat) :
    (history.perform deed).agent.vault.read cell =
      if call.cell = cell then call.left else history.agent.vault.read cell := by
  obtain ⟨performed, member, vault⟩ := perform_of_call? made
  obtain ⟨inside, -⟩ := owned.built call.member member
  rw [performed]
  show call.after.vault.read cell = _
  rw [call.vault_after, vault]
  by_cases here : call.cell = cell
  · rw [if_pos here, ← here]
    exact Vault.read_write inside _
  · rw [if_neg here, Vault.read_write_of_ne (Ne.symm here)]

/-- The calls on a cell are linked, from what is kept in it at first to what is kept in it
in the end. -/
theorem linked_calls {history : History} {owner : Nat → Slot} (owned : history.Owned owner)
    (deeds : List Deed) (cell : Nat) :
    Linked (history.agent.vault.read cell) (history.callsOn cell deeds)
      ((deeds.foldl perform history).agent.vault.read cell) := by
  induction deeds generalizing history owner with
  | nil => rfl
  | cons deed deeds ih =>
      obtain ⟨owner', owned'⟩ := perform_owned owned deed
      have rest := ih owned'
      cases made : history.call? deed with
      | none =>
          rw [read_perform_of_none made] at rest
          simpa [callsOn, calls, made] using rest
      | some call =>
          rw [read_perform owned made] at rest
          obtain ⟨-, -, vault⟩ := perform_of_call? made
          by_cases here : call.cell = cell
          · rw [if_pos here] at rest
            have found : call.found = history.agent.vault.read cell := by
              rw [Call.found, vault, here]
            simpa [callsOn, calls, made, here, Linked, found] using rest
          · rw [if_neg here] at rest
            simpa [callsOn, calls, made, here] using rest

/-! ## Calls for one key -/

variable {world : World} {deeds : List Deed} {first second : Member}

/-- While a cache is not cleared, its accounts with one key have one cell, and no other
account has it. -/
theorem cell_eq_iff_slot_eq (kept : .clear first.cache ∉ deeds)
    (one : first ∈ (run world deeds).members) (two : second ∈ (run world deeds).members) :
    second.account.cell = first.account.cell ↔ second.slot = first.slot := by
  constructor
  · intro same
    obtain ⟨owner, owned⟩ := run_owned world deeds
    rw [← (owned.built first one).2, ← (owned.built second two).2, same]
  · intro same
    obtain ⟨cache, key⟩ := Slot.mk.inj same
    have shared := (shares_iff_cacheKey_eq (run_sound world kept) two one cache rfl).mpr key
    simpa [Account.shares] using shared

theorem run_append (world : World) (deeds later : List Deed) :
    run world (deeds ++ later) = later.foldl perform (run world deeds) :=
  List.foldl_append

theorem callsFor_eq_callsOn {later : List Deed} (kept : .clear first.cache ∉ deeds ++ later)
    (one : first ∈ (run world (deeds ++ later)).members) :
    (run world deeds).callsFor first.slot later =
      (run world deeds).callsOn first.account.cell later := by
  apply List.filter_congr
  intro call made
  have two : call.member ∈ (run world (deeds ++ later)).members := by
    rw [run_append]
    exact member_mem_of_calls made
  exact decide_eq_decide.mpr (cell_eq_iff_slot_eq kept one two).symm

/-- What is kept for the key of an account is what the account finds. -/
theorem kept_slot (kept : .clear first.cache ∉ deeds)
    (one : first ∈ (run world deeds).members) :
    (run world deeds).agent.vault.kept first.slot =
      first.account.credentials (run world deeds).agent := by
  obtain ⟨-, cell⟩ := (run_sound world kept).built first one rfl
  exact Vault.kept_of_lookup cell

end History

end TokenFlow
