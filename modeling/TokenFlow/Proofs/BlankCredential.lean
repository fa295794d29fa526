/-
# TokenFlow.Proofs.BlankCredential -- where an empty token can come from

Tokens come from grants of a token endpoint and from sessions of a companion service.  A
session never brings an empty one.  A grant does when its access token is empty and it has
no other identity token (`bearer_eq_empty_iff`): such a grant is as good as any.

What is kept is `Filled` when it is no empty token.  A call that receives no blank grant
leaves it so and comes to no empty token (`filled_left`), and from one call on a cell to
the next nothing changes (`Linked.filled`).  So an empty token, returned or kept, always
has a blank grant behind it, received by a call on the same cell.
-/
import TokenFlow.Proofs.KeptSession
import TokenFlow.Proofs.Obtained

namespace TokenFlow

set_option autoImplicit false

open TokenFlow.Document

/-- A grant with nothing to present. -/
def Document.Grant.IsBlank (grant : Grant) : Prop :=
  grant.identity? = none ∧ grant.accessToken = ""

theorem Document.Grant.bearer_eq_empty_iff {grant : Grant} :
    grant.bearer = "" ↔ grant.IsBlank := by
  unfold bearer IsBlank
  cases identity : grant.identity? with
  | none => simp
  | some token =>
      have nonempty : token ≠ "" := by
        have kept := (Option.filter_eq_some_iff.mp identity).2
        simpa using kept
      simp [nonempty]

/-- There is no empty token. -/
def Credentials.Filled (credentials : Credentials) : Prop :=
  ∀ credential, credentials.token = some credential → credential.value ≠ ""

/-! ## One call -/

namespace Call

variable {call : Call}

/-- A token endpoint answers it with a blank grant. -/
def ReceivesBlank (call : Call) : Prop :=
  (∃ provider, call.provider = .code provider) ∧
    ∃ entry ∈ call.asked, ∃ grant, entry.grant? = some grant ∧ grant.IsBlank

/-- A call that obtains an empty token received a blank grant, which is the last answer. -/
theorem receivesBlank_of_empty {provider : CodeProvider} (kind : call.provider = .code provider)
    (missed : call.found.usable? call.agent.world.clock call.provider.buffer = none)
    (came : call.result = .ok "") : call.ReceivesBlank := by
  obtain ⟨credential, -, empty, earlier, last, grant, asks, granted, given⟩ :=
    obtains_of_missed kind missed came
  refine ⟨⟨provider, kind⟩, last, ?_, grant, granted, ?_⟩
  · rw [asked, asks.asked_eq]
    exact List.mem_append_right _ (List.mem_singleton_self last)
  · rw [← Grant.bearer_eq_empty_iff, ← Credential.value_of_ofGrant given]
    exact empty

/-- A call without a blank grant leaves no empty token where there was none. -/
theorem filled_left (filled : call.found.Filled) (clean : ¬ call.ReceivesBlank) :
    call.left.Filled := by
  cases look : call.found.usable? call.agent.world.clock call.provider.buffer with
  | some value =>
      rw [(of_usable look).2]
      exact filled
  | none =>
      cases result : call.result with
      | error fault =>
          have kept : call.left.token = call.found.token := Provider.token_of_error result
          intro credential token
          exact filled credential (kept ▸ token)
      | ok value =>
          obtain ⟨stored, token, rfl⟩ := token_of_ok result
          intro credential same
          obtain rfl := Option.some.inj (token.symm.trans same)
          intro empty
          rw [empty] at result
          cases kind : call.provider with
          | code provider => exact clean (receivesBlank_of_empty kind look result)
          | delegated provider =>
              rw [kind] at look
              rw [result_eq, kind] at result
              rcases @DelegatedProvider.getToken_of_missed provider call.login look with
                ⟨⟨fault, stopped⟩, -⟩ | ⟨fresh, nonempty, came, -⟩
              · cases stopped.symm.trans result
              · exact nonempty (Except.ok.inj (came.symm.trans result))

/-- It comes to no empty token, either. -/
theorem result_ne_empty (filled : call.found.Filled) (clean : ¬ call.ReceivesBlank) :
    call.result ≠ .ok "" := by
  intro came
  obtain ⟨credential, token, value⟩ := token_of_ok came
  exact filled_left filled clean credential token value

end Call

/-! ## Calls in a row -/

/-- Without blank grants, no call leaves an empty token to the next. -/
theorem Linked.filled {first last : Credentials} {calls : List Call}
    (linked : Linked first calls last) (filled : first.Filled)
    (clean : ∀ call ∈ calls, ¬ call.ReceivesBlank) : last.Filled := by
  induction calls generalizing first with
  | nil =>
      obtain rfl : last = first := linked
      exact filled
  | cons call calls ih =>
      obtain ⟨rfl, rest⟩ := linked
      rw [List.forall_mem_cons] at clean
      exact ih rest (Call.filled_left filled clean.1) clean.2

namespace History

variable {history : History} {owner : Nat → Slot}

/-- The calls on the cell of a call are those before it, itself, and those after it. -/
theorem callsOn_split {deeds : List Deed} {earlier later : List Call} {call : Call}
    (split : history.calls deeds = earlier ++ call :: later) :
    history.callsOn call.cell deeds =
      earlier.filter (·.cell = call.cell) ++ call :: later.filter (·.cell = call.cell) := by
  simp [callsOn, split]

/-- Calls on one cell are of one kind. -/
theorem Owned.not_receivesBlank {deeds : List Deed} {call source : Call}
    {provider : DelegatedProvider} (owned : (deeds.foldl perform history).Owned owner)
    (made : call ∈ history.calls deeds) (also : source ∈ history.calls deeds)
    (same : source.cell = call.cell) (delegated : call.provider = .delegated provider) :
    ¬ source.ReceivesBlank := by
  rintro ⟨⟨other, code⟩, -⟩
  obtain ⟨-, mine⟩ := owned.built _ (member_mem_of_calls made)
  obtain ⟨-, yours⟩ := owned.built _ (member_mem_of_calls also)
  have slots : source.member.slot = call.member.slot := by
    rw [← mine, ← yours]
    exact congrArg owner same
  have keys : source.provider.cacheKey = call.provider.cacheKey := congrArg Slot.key slots
  rw [code, delegated] at keys
  exact codeKey_ne_delegatedKey _ _ _ keys

/-- When no token is kept at first, then for every empty token that a call comes to, and for
every one that is kept, there was a call on the same cell that received a blank grant; for
one that a call comes to, it was this call or one before it.  A delegated account never
comes to an empty token. -/
theorem blank_grant_of_empty_token (owned : history.Owned owner)
    (tokenless : ∀ cell, (history.agent.vault.read cell).token = none) (deeds : List Deed) :
    (∀ earlier call later, history.calls deeds = earlier ++ call :: later →
        call.result = .ok "" →
          (∀ provider, call.provider ≠ .delegated provider) ∧
            ∃ source ∈ earlier ++ [call], source.cell = call.cell ∧ source.ReceivesBlank) ∧
      ∀ cell credential,
        ((deeds.foldl perform history).agent.vault.read cell).token = some credential →
          credential.value = "" → ∃ source ∈ history.callsOn cell deeds, source.ReceivesBlank := by
  have filled (cell : Nat) : (history.agent.vault.read cell).Filled := by
    intro credential token
    rw [tokenless] at token
    cases token
  constructor
  · intro earlier call later split came
    have linked := linked_calls owned deeds call.cell
    rw [callsOn_split split] at linked
    have blank : ∃ source ∈ earlier ++ [call], source.cell = call.cell ∧ source.ReceivesBlank := by
      by_contra clean
      push Not at clean
      have here : ¬ call.ReceivesBlank := clean call (by simp) rfl
      have found : call.found.Filled := by
        apply linked.of_append.filled (filled call.cell)
        intro source before
        obtain ⟨before, same⟩ := List.mem_filter.mp before
        exact clean source (List.mem_append_left _ before) (of_decide_eq_true same)
      exact Call.result_ne_empty found here came
    refine ⟨fun provider delegated => ?_, blank⟩
    obtain ⟨source, before, same, received⟩ := blank
    obtain ⟨owner', owned'⟩ := foldl_owned owned deeds
    refine owned'.not_receivesBlank ?_ ?_ same delegated received
    · simp [split]
    · rw [split]
      rcases List.mem_append.mp before with before | here
      · exact List.mem_append_left _ before
      · exact List.mem_append_right _ (List.mem_cons.mpr (.inl (List.mem_singleton.mp here)))
  · intro cell credential token empty
    by_contra clean
    push Not at clean
    exact (linked_calls owned deeds cell).filled (filled cell) clean credential token empty

/-- A login of a client whose token endpoint grants an empty access token. -/
def blankDeeds : List Deed :=
  [.build "main" (.code .client),
    .getToken 0 { CodeProvider.firstCall.world with
      replies := [.response
        ⟨200, [], Text.Utf8.encode "\x7b\"access_token\": \"\"\x7d".toList, none⟩] }]

/-- There is one call, and it comes to the empty token. -/
theorem calls_blankDeeds :
    ∃ call, (start beforehand).calls blankDeeds = [call] ∧ call.result = .ok "" := by
  have results : ((start beforehand).calls blankDeeds).map (·.result.toOption) = [some ""] := by
    decide +kernel
  obtain ⟨call, rest, made, came, none⟩ := List.map_eq_cons_iff.mp results
  rw [List.map_eq_nil_iff.mp none] at made
  exact ⟨call, made, Call.result_of_toOption came⟩

/-- It is this call that received the blank grant, for its result and for what is kept. -/
theorem blank_grant_of_blankDeeds :
    ∃ call, (start beforehand).calls blankDeeds = [call] ∧ call.result = .ok "" ∧
      (∀ provider, call.provider ≠ .delegated provider) ∧ call.ReceivesBlank ∧
      ∃ source ∈ (start beforehand).callsOn 0 blankDeeds, source.ReceivesBlank := by
  obtain ⟨call, made, came⟩ := calls_blankDeeds
  have owned : (start beforehand).Owned fun _ => clientSlot := start_owned _ _
  obtain ⟨results, stored⟩ := blank_grant_of_empty_token owned (fun _ => rfl) blankDeeds
  obtain ⟨kind, source, there, -, received⟩ := results [] call [] made came
  have token : ((blankDeeds.foldl perform (start beforehand)).agent.vault.read 0).token =
      some ⟨"", some (.real (.exactly 3600))⟩ := by
    decide +kernel
  rw [List.nil_append, List.mem_singleton] at there
  exact ⟨call, made, came, kind, there ▸ received, stored 0 _ token rfl⟩

/-- So empty tokens are returned and kept. -/
theorem blank_grant_accepted :
    ¬ ∀ (world : World) (deeds : List Deed),
      (∀ call ∈ (start world).calls deeds, call.result ≠ .ok "") ∧
        ∀ slot, ((run world deeds).agent.vault.kept slot).Filled := by
  intro nonempty
  obtain ⟨call, made, came⟩ := calls_blankDeeds
  refine (nonempty beforehand blankDeeds).1 call ?_ came
  rw [made]
  exact List.mem_singleton_self call

end History

end TokenFlow
