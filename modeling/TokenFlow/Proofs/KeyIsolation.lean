/-
# TokenFlow.Proofs.KeyIsolation -- one entry for a key, and nothing in common between keys

Accounts come and go on a cache, and calls on many keys take turns.  A call changes what is
kept for its own key and for no other (`kept_perform_of_ne`).  What it leaves is there for
every account with that key, whenever it was built: as long as the token lasts, calls find
it and leave it alone (`Linked.of_lasting`), so they all come to the same value and do
nothing.  A cache has exactly one entry for each key that an account was built for
(`perform_entries`).
-/
import Mathlib.Data.Finset.Card
import TokenFlow.Proofs.HistoryCalls
import TokenFlow.Proofs.LoginBinding

namespace TokenFlow

set_option autoImplicit false

open TokenFlow.Number

/-! ## Entries -/

namespace Vault

/-- The keys that have a cell, in the order in which they got it. -/
def keys (vault : Vault) (cache : String) : List String :=
  (vault.index cache).map Prod.fst

theorem lookup_eq_none_iff {vault : Vault} {cache key : String} :
    (vault.index cache).lookup key = none ↔ key ∉ vault.keys cache := by
  simp only [List.lookup_eq_none_iff, keys, List.mem_map, not_exists, not_and]
  constructor
  · intro missing entry found same
    simpa [same] using missing entry found
  · intro missing entry found
    simpa using fun same => missing entry found same.symm

/-- Opening a key adds it to the keys of its cache, unless it is one of them. -/
theorem keys_cellFor (vault : Vault) (cache key other : String) :
    (vault.cellFor cache key).2.keys other =
      if other = cache ∧ key ∉ vault.keys cache then vault.keys cache ++ [key]
      else vault.keys other := by
  cases known : (vault.index cache).lookup key with
  | some cell =>
      have there : key ∈ vault.keys cache := by
        by_contra missing
        rw [lookup_eq_none_iff.mpr missing] at known
        cases known
      simp [cellFor_of_some known, there]
  | none =>
      have missing := lookup_eq_none_iff.mp known
      simp only [keys, index_cellFor_of_none known]
      by_cases same : other = cache
      · simp [same, show key ∉ (vault.index cache).map Prod.fst from missing]
      · simp [same]

end Vault

namespace History

/-- The keys that accounts were built for on a cache, one for each account. -/
def keysOn (history : History) (cache : String) : List String :=
  (history.members.filter (·.cache = cache)).map (·.slot.key)

theorem mem_keysOn {history : History} {cache key : String} :
    key ∈ history.keysOn cache ↔ ∃ member ∈ history.members, member.slot = ⟨cache, key⟩ := by
  simp [keysOn, Member.slot, and_assoc]

/-- A cache has one entry for each key that an account was built for. -/
structure Entries (history : History) (cache : String) : Prop where
  nodup : (history.agent.vault.keys cache).Nodup
  mem_iff : ∀ key, key ∈ history.agent.vault.keys cache ↔ key ∈ history.keysOn cache

theorem start_entries (world : World) (cache : String) : (start world).Entries cache where
  nodup := by simp [start, Agent.start, Vault.keys, Vault.index, Vault.empty]
  mem_iff key := by simp [start, Agent.start, Vault.keys, Vault.index, Vault.empty, keysOn]

theorem Entries.build {history : History} {cache : String} (entries : history.Entries cache)
    (other : String) (design : Design) (provider : Provider) :
    let opened := history.agent.vault.cellFor other provider.cacheKey
    Entries ⟨{ history.agent with vault := opened.2 },
      history.members ++ [⟨other, design, ⟨provider, opened.1⟩⟩]⟩ cache := by
  intro opened
  have keys : opened.2.keys cache = _ :=
    history.agent.vault.keys_cellFor other provider.cacheKey cache
  have asked (key : String) : key ∈ keysOn ⟨{ history.agent with vault := opened.2 },
        history.members ++ [⟨other, design, ⟨provider, opened.1⟩⟩]⟩ cache ↔
      key ∈ history.keysOn cache ∨ (other = cache ∧ provider.cacheKey = key) := by
    simp [mem_keysOn, or_and_right, exists_or, Member.slot]
  constructor
  · show (opened.2.keys cache).Nodup
    rw [keys]
    split
    · rename_i new
      obtain ⟨rfl, missing⟩ := new
      apply List.Nodup.append entries.nodup (List.nodup_singleton _)
      simpa using missing
    · exact entries.nodup
  · intro key
    show key ∈ opened.2.keys cache ↔ _
    rw [asked, keys, ← entries.mem_iff]
    split
    · rename_i new
      obtain ⟨rfl, -⟩ := new
      simp [eq_comm]
    · rename_i old
      -- the key of the account is one of the keys, if the account is on this cache
      have there : other = cache ∧ provider.cacheKey = key →
          key ∈ history.agent.vault.keys cache := by
        rintro ⟨rfl, rfl⟩
        by_contra missing
        exact old ⟨rfl, missing⟩
      exact ⟨.inl, fun either => either.elim id there⟩

theorem perform_entries {history : History} {cache : String} (entries : history.Entries cache)
    {deed : Deed} (kept : deed ≠ .clear cache) : (history.perform deed).Entries cache := by
  cases deed with
  | build other design =>
      rcases openOn_cases design other history.agent with ⟨fault, opened⟩ | ⟨provider, -, opened⟩
      · simp only [perform, opened]
        exact entries
      · simp only [perform, opened]
        exact entries.build other design provider
  | getToken place world =>
      simp only [perform]
      split
      · exact ⟨entries.nodup, entries.mem_iff⟩
      · exact entries
  | clear other =>
      have ne : cache ≠ other := fun same => kept (by rw [same])
      have keys : (history.perform (.clear other)).agent.vault.keys cache =
          history.agent.vault.keys cache := by
        simp only [perform, Vault.keys, Vault.index_clear _ ne]
      constructor
      · rw [keys]
        exact entries.nodup
      · intro key
        rw [keys]
        exact entries.mem_iff key

theorem run_entries (world : World) {deeds : List Deed} {cache : String}
    (kept : .clear cache ∉ deeds) : (run world deeds).Entries cache := by
  have folded : ∀ (deeds : List Deed) (history : History), history.Entries cache →
      .clear cache ∉ deeds → (deeds.foldl perform history).Entries cache := by
    intro deeds
    induction deeds with
    | nil => exact fun _ entries _ => entries
    | cons deed deeds ih =>
        intro history entries kept
        rw [List.mem_cons, not_or] at kept
        exact ih _ (perform_entries entries (Ne.symm kept.1)) kept.2
  exact folded deeds (start world) (start_entries world cache) kept

theorem Entries.size_eq {history : History} {cache : String} (entries : history.Entries cache) :
    history.agent.vault.size cache = (history.keysOn cache).toFinset.card := by
  have same : (history.keysOn cache).toFinset = (history.agent.vault.keys cache).toFinset := by
    ext key
    simp [entries.mem_iff]
  rw [same, List.toFinset_card_of_nodup entries.nodup]
  simp [Vault.size, Vault.keys]

end History

/-! ## Tokens that last -/

/-- The credential is still usable when the call is made. -/
def Credential.LastsFor (credential : Credential) (call : Call) : Prop :=
  credential.isExpired call.agent.world.clock call.provider.buffer = false

namespace Call

variable {call : Call} {credential : Credential}

/-- A call that finds a token that lasts comes to its value, and does nothing. -/
theorem getToken_of_lasts (kept : call.found.token = some credential)
    (lasts : credential.LastsFor call) :
    call.member.account.getToken call.agent = (.ok credential.value, call.agent) :=
  Account.getToken_of_usable (Credentials.usable?_of_lasting kept lasts)

theorem left_of_lasts (kept : call.found.token = some credential)
    (lasts : credential.LastsFor call) : call.left = call.found :=
  (of_usable (Credentials.usable?_of_lasting kept lasts)).2

/-- A call that comes to a value leaves a token with that value. -/
theorem token_of_ok {value : String} (came : call.result = .ok value) :
    ∃ credential, call.left.token = some credential ∧ credential.value = value := by
  cases look : call.found.usable? call.agent.world.clock call.provider.buffer with
  | none => exact @Provider.token_of_ok call.provider call.login value look came
  | some usable =>
      obtain ⟨result, left⟩ := of_usable look
      have same : usable = value := Except.ok.inj (result.symm.trans came)
      unfold Credentials.usable? at look
      cases kept : call.found.token with
      | none =>
          rw [kept] at look
          cases look
      | some credential =>
          refine ⟨credential, ?_, ?_⟩
          · rw [left, kept]
          · rw [kept] at look
            by_cases ended : credential.isExpired call.agent.world.clock call.provider.buffer = true
            · simp [ended] at look
            · have shown : credential.value = usable := by simpa [ended] using look
              rw [shown, same]

end Call

/-- Calls that find a token that lasts leave it as it is. -/
theorem Linked.of_lasting {first last : Credentials} {calls : List Call} {credential : Credential}
    (linked : Linked first calls last) (kept : first.token = some credential)
    (lasts : ∀ call ∈ calls, credential.LastsFor call) : last = first := by
  induction calls generalizing first with
  | nil => exact linked
  | cons call calls ih =>
      obtain ⟨found, rest⟩ := linked
      rw [List.forall_mem_cons] at lasts
      have same : call.left = first := by
        rw [Call.left_of_lasts (found ▸ kept) lasts.1, found]
      rw [same] at rest
      exact ih rest kept lasts.2

/-- A token stays when every call that finds it leaves it. -/
theorem Linked.token_of_keeping {first last : Credentials} {calls : List Call}
    {credential : Credential} (linked : Linked first calls last)
    (token : first.token = some credential)
    (keeps : ∀ call ∈ calls, call.found.token = some credential →
      call.left.token = some credential) : last.token = some credential := by
  induction calls generalizing first with
  | nil =>
      obtain rfl : last = first := linked
      exact token
  | cons call calls ih =>
      obtain ⟨rfl, rest⟩ := linked
      rw [List.forall_mem_cons] at keeps
      exact ih rest (keeps.1 token) keeps.2

/-! ## Isolation and sharing -/

namespace History

/-- A call changes nothing of what is kept for another key, of its cache or of any other. -/
theorem kept_perform_of_ne {history : History} {owner : Nat → Slot}
    (owned : history.Owned owner) {deed : Deed} {call : Call}
    (made : history.call? deed = some call) {slot : Slot} (ne : slot ≠ call.member.slot) :
    (history.perform deed).agent.vault.kept slot = history.agent.vault.kept slot := by
  obtain ⟨performed, member, vault⟩ := perform_of_call? made
  have index : (history.perform deed).agent.vault.index slot.cache =
      history.agent.vault.index slot.cache := by
    rw [performed]
    show call.after.vault.index slot.cache = _
    rw [call.vault_after, vault]
    rfl
  unfold Vault.kept
  rw [index]
  cases found : (history.agent.vault.index slot.cache).lookup slot.key with
  | none => rfl
  | some cell =>
      have elsewhere : call.cell ≠ cell := by
        intro same
        apply ne
        rw [← (owned.built call.member member).2]
        exact ((owned.indexed found).2.symm.trans (by rw [← same]; rfl))
      show (history.perform deed).agent.vault.read cell = history.agent.vault.read cell
      rw [read_perform owned made, if_neg elsewhere]

/-- What a call leaves is kept for its key. -/
theorem kept_after_call {world : World} {deeds : List Deed} {deed : Deed} {call : Call}
    (made : (run world deeds).call? deed = some call)
    (kept : .clear call.member.cache ∉ deeds ++ [deed]) :
    call.member ∈ (run world (deeds ++ [deed])).members ∧
      (run world (deeds ++ [deed])).agent.vault.read call.cell = call.left ∧
      (run world (deeds ++ [deed])).agent.vault.kept call.member.slot = call.left := by
  obtain ⟨owner, owned⟩ := run_owned world deeds
  obtain ⟨-, built, -⟩ := perform_of_call? made
  have member : call.member ∈ (run world (deeds ++ [deed])).members := by
    rw [run_append]
    exact members_perform _ deed built
  have left : (run world (deeds ++ [deed])).agent.vault.read call.cell = call.left := by
    rw [run_append]
    exact (read_perform owned made call.cell).trans (if_pos rfl)
  exact ⟨member, left, (kept_slot kept member).trans left⟩

/-- A token that a call left is what a later call finds, if every call between that finds it
leaves it. -/
theorem found_of_keeping {world : World} {deeds later : List Deed} {first next : Member}
    {credential : Credential} (kept : .clear first.cache ∉ deeds ++ later)
    (built : first ∈ (run world deeds).members)
    (token : ((run world deeds).agent.vault.read first.account.cell).token = some credential)
    (keeps : ∀ between ∈ (run world deeds).callsFor first.slot later,
      between.found.token = some credential → between.left.token = some credential)
    (later' : next ∈ (run world (deeds ++ later)).members) (same : next.slot = first.slot) :
    ((run world (deeds ++ later)).agent.vault.read next.account.cell).token = some credential := by
  have one : first ∈ (run world (deeds ++ later)).members := by
    rw [run_append]
    exact members_foldl _ later built
  obtain ⟨owner, owned⟩ := run_owned world deeds
  have linked := linked_calls owned later first.account.cell
  rw [callsFor_eq_callsOn kept one] at keeps
  rw [(cell_eq_iff_slot_eq kept one later').mpr same, run_append]
  exact linked.token_of_keeping token keeps

/-- So it is when the token outlasts the calls between. -/
theorem found_of_lasting {world : World} {deeds later : List Deed} {first next : Member}
    {credential : Credential} (kept : .clear first.cache ∉ deeds ++ later)
    (built : first ∈ (run world deeds).members)
    (token : ((run world deeds).agent.vault.read first.account.cell).token = some credential)
    (lasts : ∀ between ∈ (run world deeds).callsFor first.slot later, credential.LastsFor between)
    (later' : next ∈ (run world (deeds ++ later)).members) (same : next.slot = first.slot) :
    ((run world (deeds ++ later)).agent.vault.read next.account.cell).token = some credential := by
  refine found_of_keeping kept built token (fun between made found => ?_) later' same
  rw [Call.left_of_lasts found (lasts between made), found]

/-- A cache that was never cleared has one entry for each key of its accounts, and all
accounts with one key find what is kept for it.  A call changes nothing that is kept for
another key.  When it comes to a value, it leaves a token with this value; as long as the
token outlasts every call for the key, the next of them comes to the same value and does
nothing, whoever makes it and whatever is done in between. -/
theorem keys_isolated_and_shared (world : World) (deeds : List Deed) (cache : String)
    (kept : .clear cache ∉ deeds) :
    (run world deeds).agent.vault.size cache =
        ((run world deeds).keysOn cache).toFinset.card ∧
      (∀ member ∈ (run world deeds).members, member.cache = cache →
        member.account.credentials (run world deeds).agent =
          (run world deeds).agent.vault.kept member.slot) ∧
      ∀ deed call, (run world deeds).call? deed = some call →
        (∀ slot, slot ≠ call.member.slot →
          (run world (deeds ++ [deed])).agent.vault.kept slot =
            (run world deeds).agent.vault.kept slot) ∧
        ∀ value, call.member.cache = cache → call.result = .ok value →
          ∃ credential,
            ((run world (deeds ++ [deed])).agent.vault.kept call.member.slot).token =
                some credential ∧
              credential.value = value ∧
              ∀ later again next, .clear cache ∉ later →
                (∀ between ∈ (run world (deeds ++ [deed])).callsFor call.member.slot later,
                  credential.LastsFor between) →
                (run world (deeds ++ deed :: later)).call? again = some next →
                next.member.slot = call.member.slot → credential.LastsFor next →
                  next.result = .ok value ∧ next.after = next.agent := by
  obtain ⟨owner, owned⟩ := run_owned world deeds
  refine ⟨(run_entries world kept).size_eq, ?_, ?_⟩
  · rintro member built rfl
    exact (kept_slot kept built).symm
  · intro deed call made
    constructor
    · intro slot ne
      rw [run_append]
      exact kept_perform_of_ne owned made ne
    · rintro value rfl came
      have calling : deed ≠ .clear call.member.cache := by
        rintro rfl
        cases made
      have kept' : .clear call.member.cache ∉ deeds ++ [deed] := by
        simp [kept, calling.symm]
      obtain ⟨built, read, there⟩ := kept_after_call made kept'
      obtain ⟨credential, token, shown⟩ := Call.token_of_ok came
      refine ⟨credential, by rw [there, token], shown, ?_⟩
      intro later again next unclear lasts called same lastsNext
      have regrouped : deeds ++ deed :: later = (deeds ++ [deed]) ++ later := by simp
      have kept'' : .clear call.member.cache ∉ (deeds ++ [deed]) ++ later := by
        simp [kept, calling.symm, unclear]
      rw [regrouped] at called
      obtain ⟨-, built', vault⟩ := perform_of_call? called
      have found : next.found.token = some credential := by
        rw [Call.found, vault]
        exact found_of_lasting kept'' built (read ▸ token) lasts built' same
      have reused := Call.getToken_of_lasts found lastsNext
      rw [shown] at reused
      exact ⟨congrArg Prod.fst reused, congrArg Prod.snd reused⟩

/-- Two accounts of one client, with a secret and without, and one of a service. -/
def twinDeeds : List Deed :=
  [.build "main" (.code .client),
    .build "main" (.code { CodeProvider.client with clientSecret := some "secret" }),
    .build "main" (.delegated "https://flight.example" false 1 300)]

def beforehand : World := .quiet (.exactly 0) (.ofOctets [])

/-- The first of them logs in. -/
def twinLogIn : Deed := .getToken 0 CodeProvider.firstCall.world

/-- The second of them asks when the token has ten minutes left. -/
def twinReuse : Deed := .getToken 1 (.quiet (.exactly 3000) (.ofOctets []))

def clientSlot : Slot := ⟨"main", "authorization_code|https://idp.example/token|client"⟩

def serviceSlot : Slot := ⟨"main", "server_side|https://flight.example"⟩

/-- The login of the first account serves the second, and leaves the service alone; there
are three accounts and two entries. -/
theorem keys_isolated_and_shared_twins :
    .clear "main" ∉ twinDeeds ∧
      (run beforehand twinDeeds).agent.vault.size "main" = 2 ∧
      (run beforehand (twinDeeds ++ [twinLogIn])).agent.vault.kept serviceSlot =
        (run beforehand twinDeeds).agent.vault.kept serviceSlot ∧
      ∃ next, (run beforehand (twinDeeds ++ [twinLogIn])).call? twinReuse = some next ∧
        next.result = .ok "t" ∧ next.after = next.agent := by
  have kept : .clear "main" ∉ twinDeeds := by simp [twinDeeds]
  obtain ⟨entries, -, calls⟩ := keys_isolated_and_shared beforehand twinDeeds "main" kept
  have keys : ((run beforehand twinDeeds).keysOn "main").toFinset.card = 2 := by decide +kernel
  have logIn : ((run beforehand twinDeeds).call? twinLogIn).map
      (fun call => (call.member.slot, call.result.toOption)) = some (clientSlot, some "t") := by
    decide +kernel
  have stored : ((run beforehand (twinDeeds ++ [twinLogIn])).agent.vault.kept clientSlot).token =
      some ⟨"t", some (.real (.exactly 3600))⟩ := by
    decide +kernel
  have reuse : ((run beforehand (twinDeeds ++ [twinLogIn])).call? twinReuse).map
      (fun next => (next.member.slot,
        (⟨"t", some (.real (.exactly 3600))⟩ : Credential).isExpired next.agent.world.clock
          next.provider.buffer)) = some (clientSlot, false) := by
    decide +kernel
  obtain ⟨call, made, came⟩ := Option.map_eq_some_iff.mp logIn
  obtain ⟨next, again, lasts⟩ := Option.map_eq_some_iff.mp reuse
  obtain ⟨slot, value⟩ := Prod.mk.inj came
  obtain ⟨slot', unexpired⟩ := Prod.mk.inj lasts
  obtain ⟨isolated, shared⟩ := calls twinLogIn call made
  have result : call.result = .ok "t" := Call.result_of_toOption value
  obtain ⟨credential, token, -, next_same⟩ :=
    shared "t" (congrArg Slot.cache slot) result
  rw [slot, stored] at token
  obtain rfl := Option.some.inj token
  refine ⟨kept, entries.trans keys, isolated serviceSlot ?_, next, again, ?_⟩
  · rw [slot]
    decide
  · exact next_same [] twinReuse next (by simp) (by simp [callsFor, History.calls]) again
      (slot'.trans slot.symm) unexpired

end History

end TokenFlow
