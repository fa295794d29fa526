/-
# TokenFlow.Proofs.KeptSession -- a delegated session is acquired once

A call on a delegated account that finds no usable token either fails, and then nothing of
what is kept has changed, or comes to a nonempty token, which is kept bare
(`getToken_of_missed`): with no end, so that every later call finds it usable.

So the calls for one key, from the start of a program on, are some that fail, one that
logs in, and then only calls that return what it came to (`Linked.session`).
-/
import TokenFlow.Proofs.DelegatedCall
import TokenFlow.Proofs.KeyIdentity
import TokenFlow.Proofs.KeyIsolation

namespace TokenFlow

set_option autoImplicit false

open TokenFlow.Number TokenFlow.Document

/-! ## Tokens of a session -/

namespace DelegatedProvider

/-- A report is no success without a token. -/
theorem ne_empty_of_tokenOf {report : SessionReport} {token : String}
    (reported : tokenOf report = .ok (some token)) : token ≠ "" := by
  unfold tokenOf at reported
  split at reported
  · cases given : nonempty? report.token with
    | some nonempty =>
        rw [given] at reported
        cases reported
        exact (nonempty?_eq_some_iff.mp given).2
    | none =>
        rw [given] at reported
        cases reported
  · split at reported <;> cases reported

theorem ne_empty_of_answerOf {response : Http.Response} {token : String}
    (answered : answerOf response = .ok (some token)) : token ≠ "" := by
  unfold answerOf at answered
  split at answered
  · cases read : SessionReport.ofBody response.body with
    | ok report =>
        rw [read] at answered
        exact ne_empty_of_tokenOf answered
    | error issues =>
        rw [read] at answered
        cases answered
  · cases answered

variable (provider : DelegatedProvider)

theorem pollOnce_gives (url : String) :
    Act.Gives (fun answer => ∀ token, answer = some token → token ≠ "")
      (provider.pollOnce url) := by
  unfold pollOnce
  apply Act.Gives.bind_snd
  intro _
  apply Act.Gives.bind_snd
  intro response
  apply Act.Gives.bind_snd
  intro _
  cases answered : answerOf response with
  | ok answer =>
      apply Act.Gives.pure
      rintro token rfl
      exact ne_empty_of_answerOf answered
  | error failure => exact .raise _

/-- The induction is on the replies that are left, as in `poll` itself: only the last round
gives the token. -/
theorem poll_gives (url : String) (seconds deadline : Binary64) :
    Act.Gives (· ≠ "") (provider.poll url seconds deadline) := by
  intro world value came
  induction world using DelegatedProvider.poll.induct provider url deadline with
  | case1 world early token after round =>
      rw [provider.poll_of_early early, round] at came
      obtain rfl := Except.ok.inj came
      exact provider.pollOnce_gives url world (some token) (by rw [round]) token rfl
  | case2 world early after round ih =>
      rw [provider.poll_of_early early, round] at came
      exact ih came
  | case3 world early fault after round =>
      rw [provider.poll_of_early early, round] at came
      cases came
  | case4 world late =>
      rw [poll, if_neg late] at came
      cases came

theorem pollForToken_gives (session : String) :
    Act.Gives (· ≠ "") (provider.pollForToken session) := by
  unfold pollForToken
  apply Act.Gives.bind_snd
  intro world
  apply Act.Gives.bind_snd
  intro seconds
  refine .bind (provider.poll_gives _ _ _) fun token nonempty => ?_
  exact .bind_snd fun _ => .pure nonempty

theorem logIn_gives : Act.Gives (· ≠ "") provider.logIn := by
  refine .mapFault ?_ told
  unfold runSession
  apply Act.Gives.bind_snd
  intro _
  apply Act.Gives.bind_snd
  intro response
  apply Act.Gives.bind_snd
  intro initiation
  apply Act.Gives.bind_snd
  intro _
  apply Act.Gives.bind_snd
  intro _
  exact .bind_snd fun _ => provider.pollForToken_gives _

/-! ## Calls -/

variable {provider} {login : Login}

/-- A call that finds nothing usable fails and keeps what was kept, or comes to a nonempty
token and keeps it instead, without an end. -/
theorem getToken_of_missed (missed : login.credentials.usable? login.world.clock buffer = none) :
    ((∃ fault, (provider.getToken login).1 = .error fault) ∧
        (provider.getToken login).2.credentials = { login.credentials with locked := false }) ∨
      ∃ token, token ≠ "" ∧ (provider.getToken login).1 = .ok token ∧
        (provider.getToken login).2.credentials =
          { login.credentials with token := some ⟨token, none⟩, locked := false } := by
  have called : provider.getToken login =
      ((provider.acquire (login.setLocked true)).1,
        (provider.acquire (login.setLocked true)).2.setLocked false) :=
    @Provider.getToken_of_none (.delegated provider) login missed
  rw [called]
  rcases ran : provider.logIn login.world with ⟨fault | token, after⟩
  · have stopped : provider.acquire (login.setLocked true) =
        (.error fault, { login.setLocked true with world := after }) :=
      Act.bind_of_error (Login.inWorld_of ran)
    rw [stopped]
    exact .inl ⟨⟨fault, rfl⟩, rfl⟩
  · have came : provider.acquire (login.setLocked true) =
        (Login.keep ⟨token, none⟩ >>= fun _ => pure token)
          { login.setLocked true with world := after } :=
      Act.bind_of_ok (Login.inWorld_of ran)
    rw [came]
    exact .inr ⟨token, provider.logIn_gives _ token (by rw [ran]), rfl, rfl⟩

end DelegatedProvider

/-! ## Calls in a row -/

/-- What a session leaves. -/
def Credentials.bare (token : String) : Credentials :=
  ⟨some ⟨token, none⟩, none, false⟩

namespace Call

variable {call : Call}

/-- It failed, and nothing that is kept is changed. -/
def Failed (call : Call) : Prop :=
  (∃ fault, call.result = .error fault) ∧ call.found = .empty ∧
    call.after.vault = call.agent.vault

/-- It found nothing, and came to a token that it left without an end. -/
def LoggedIn (call : Call) (token : String) : Prop :=
  call.found = .empty ∧ token ≠ "" ∧ call.result = .ok token ∧ call.left = .bare token

/-- It came to a token, and did nothing else. -/
def Reused (call : Call) (token : String) : Prop :=
  call.member.account.getToken call.agent = (.ok token, call.agent)

theorem after_vault_of_left (same : call.left = call.found) :
    call.after.vault = call.agent.vault := by
  rw [call.vault_after, same]
  exact Vault.write_read _ _

/-- The first call for a session, as long as nothing is kept. -/
theorem failed_or_loggedIn {provider : DelegatedProvider}
    (delegated : call.provider = .delegated provider) (nothing : call.found = .empty) :
    (call.Failed ∧ call.left = .empty) ∨ ∃ token, call.LoggedIn token := by
  have missed : call.login.credentials.usable? call.login.world.clock
      DelegatedProvider.buffer = none := by
    show call.found.usable? _ _ = none
    rw [nothing]
    rfl
  have found : call.login.credentials = .empty := nothing
  have result : call.result = (provider.getToken call.login).1 := by
    rw [call.result_eq, delegated]
    rfl
  have left : call.left = (provider.getToken call.login).2.credentials := by
    rw [Call.left, delegated]
    rfl
  rcases @DelegatedProvider.getToken_of_missed provider call.login missed with
    ⟨⟨fault, stopped⟩, kept⟩ | ⟨token, nonempty, came, kept⟩
  · have empty : call.left = .empty := by
      rw [left, kept, found]
      rfl
    refine .inl ⟨⟨⟨fault, result.trans stopped⟩, nothing, ?_⟩, empty⟩
    exact after_vault_of_left (empty.trans nothing.symm)
  · refine .inr ⟨token, nothing, nonempty, result.trans came, ?_⟩
    rw [left, kept, found]
    rfl

end Call

namespace Linked

variable {calls : List Call} {last : Credentials}

/-- Once a bare token is kept, every call returns it and leaves everything as it is. -/
theorem reused_of_bare {token : String} (linked : Linked (.bare token) calls last) :
    ∀ call ∈ calls, call.Reused token := by
  intro call made
  obtain ⟨earlier, later, rfl⟩ := List.append_of_mem made
  have endless (call : Call) : Credential.LastsFor ⟨token, none⟩ call := rfl
  have found : call.found = .bare token :=
    linked.of_append.of_lasting rfl fun call _ => endless call
  exact Call.getToken_of_lasts (congrArg Credentials.token found) (endless call)

/-- The induction is on the calls: a failure leaves nothing for the next call to find, and
what the first success leaves serves all calls after it. -/
theorem session (linked : Linked .empty calls last)
    (delegated : ∀ call ∈ calls, ∃ provider, call.provider = .delegated provider) :
    ∃ failed served, calls = failed ++ served ∧ (∀ call ∈ failed, call.Failed) ∧
      ∀ first later, served = first :: later →
        ∃ token, first.LoggedIn token ∧ ∀ call ∈ later, call.Reused token := by
  induction calls with
  | nil =>
      refine ⟨[], [], rfl, List.forall_mem_nil _, fun first later same => ?_⟩
      cases same
  | cons call calls ih =>
      obtain ⟨found, rest⟩ := linked
      rw [List.forall_mem_cons] at delegated
      obtain ⟨⟨provider, kind⟩, delegated⟩ := delegated
      rcases Call.failed_or_loggedIn kind found with ⟨failure, empty⟩ | ⟨token, success⟩
      · rw [empty] at rest
        obtain ⟨failed, served, rfl, failures, serves⟩ := ih rest delegated
        refine ⟨call :: failed, served, rfl, ?_, serves⟩
        rw [List.forall_mem_cons]
        exact ⟨failure, failures⟩
      · refine ⟨[], call :: calls, rfl, List.forall_mem_nil _, ?_⟩
        rintro first later same
        obtain ⟨rfl, rfl⟩ := List.cons.inj same
        rw [success.2.2.2] at rest
        exact ⟨token, success, rest.reused_of_bare⟩

end Linked

namespace History

/-- Only services have such a key. -/
theorem delegated_of_slot {member : Member} {cache baseUrl : String}
    (named : member.slot = ⟨cache, delegatedKey baseUrl⟩) :
    ∃ provider, member.account.provider = .delegated provider := by
  have key : member.account.provider.cacheKey = delegatedKey baseUrl := congrArg Slot.key named
  cases kind : member.account.provider with
  | code provider =>
      rw [kind] at key
      exact absurd key (codeKey_ne_delegatedKey _ _ _)
  | delegated provider => exact ⟨provider, rfl⟩

/-- While a cache is not cleared, the calls for a key of it are linked, from nothing to what is
kept for the key in the end. -/
theorem linked_callsFor {world : World} {deeds : List Deed} {slot : Slot}
    (kept : .clear slot.cache ∉ deeds) :
    Linked .empty ((start world).callsFor slot deeds) ((run world deeds).agent.vault.kept slot) := by
  by_cases built : ∃ member ∈ (run world deeds).members, member.slot = slot
  · obtain ⟨member, built, rfl⟩ := built
    obtain ⟨owner, owned⟩ := run_owned world []
    have same : (start world).callsFor member.slot deeds =
        (start world).callsOn member.account.cell deeds :=
      @callsFor_eq_callsOn world [] member deeds kept built
    rw [same, kept_slot kept built]
    exact linked_calls owned deeds member.account.cell
  · -- nobody has the key, so it has no calls and no entry
    have silent : (start world).callsFor slot deeds = [] := by
      apply List.filter_eq_nil_iff.mpr
      intro call made named
      exact built ⟨call.member, member_mem_of_calls made, of_decide_eq_true named⟩
    have missing : ((run world deeds).agent.vault.index slot.cache).lookup slot.key = none := by
      apply Vault.lookup_eq_none_iff.mpr
      intro entry
      exact built (mem_keysOn.mp (((run_entries world kept).mem_iff slot.key).mp entry))
    rw [silent]
    show (run world deeds).agent.vault.kept slot = .empty
    rw [Vault.kept, missing]

/-- The calls for the key of a service, on a cache that is not cleared, start with failures
that change nothing that is kept.  The first one that does not fail comes to a nonempty
token, and leaves it without an end and without a refresh token; each call after it
returns this token and does nothing, whatever its provider and its world. -/
theorem session_acquired_once (world : World) (deeds : List Deed) (cache baseUrl : String)
    (kept : .clear cache ∉ deeds) :
    ∃ failed served,
      (start world).callsFor ⟨cache, delegatedKey baseUrl⟩ deeds = failed ++ served ∧
        (∀ call ∈ failed, (∃ fault, call.result = .error fault) ∧ call.found = .empty ∧
          call.after.vault = call.agent.vault) ∧
        ∀ first later, served = first :: later → ∃ token, token ≠ "" ∧
          first.found = .empty ∧ first.result = .ok token ∧
          first.left = ⟨some ⟨token, none⟩, none, false⟩ ∧
          ∀ call ∈ later, call.member.account.getToken call.agent = (.ok token, call.agent) := by
  have linked : Linked .empty ((start world).callsFor ⟨cache, delegatedKey baseUrl⟩ deeds) _ :=
    linked_callsFor kept
  obtain ⟨failed, served, split, failures, serves⟩ := linked.session fun call made =>
    delegated_of_slot (of_decide_eq_true (List.mem_filter.mp made).2)
  refine ⟨failed, served, split, failures, fun first later same => ?_⟩
  obtain ⟨token, ⟨found, nonempty, came, left⟩, reused⟩ := serves first later same
  exact ⟨token, nonempty, found, came, left, reused⟩

/-- Two accounts of one service, which differ in all other settings.  The first call finds
the service down, the second one gets a session, and the third one is made much later. -/
def sharedServiceDeeds : List Deed :=
  [.build "main" (.delegated "https://auth.example" false (.whole 2) (.whole 10)),
    .build "main" (.delegated "https://auth.example/" true (.whole 1) (.whole 300)),
    .getToken 0 { World.quiet (.exactly 500) (.ofOctets []) with
      replies := [.response ⟨503, [], [], none⟩] },
    .getToken 1 DelegatedProvider.firstSession.world,
    .getToken 0 (.quiet (.exactly 900000000) (.ofOctets []))]

/-- The calls fail, log in and use the token again, in this order. -/
theorem session_acquired_once_shared :
    .clear "main" ∉ sharedServiceDeeds ∧
      ∃ failure login again,
        (start beforehand).callsFor ⟨"main", delegatedKey "https://auth.example"⟩
            sharedServiceDeeds = [failure, login, again] ∧
          failure.after.vault = failure.agent.vault ∧
          login.left = ⟨some ⟨"t", none⟩, none, false⟩ ∧
          again.member.account.getToken again.agent = (.ok "t", again.agent) := by
  have kept : .clear "main" ∉ sharedServiceDeeds := by simp [sharedServiceDeeds]
  have results : ((start beforehand).callsFor ⟨"main", delegatedKey "https://auth.example"⟩
      sharedServiceDeeds).map (·.result.toOption) = [none, some "t", some "t"] := by
    decide +kernel
  obtain ⟨failed, served, split, failures, serves⟩ :=
    session_acquired_once beforehand sharedServiceDeeds "main" "https://auth.example" kept
  rw [split] at results
  have count := congrArg List.length results
  have second := congrArg (·[1]?) results
  rcases failed with - | ⟨failure, - | ⟨other, failed⟩⟩
  · -- the first call has no token, so it is not the one that logs in
    rcases served with - | ⟨first, later⟩
    · simp at count
    · obtain ⟨token, -, -, came, -⟩ := serves first later rfl
      simp [came, Except.toOption] at results
  · rcases served with - | ⟨login, - | ⟨again, - | ⟨fourth, later⟩⟩⟩
    · simp at count
    · simp at count
    · obtain ⟨token, -, -, came, left, reused⟩ := serves login [again] rfl
      have named : token = "t" := by simpa [came, Except.toOption] using second
      rw [named] at left reused
      obtain ⟨-, -, unchanged⟩ := failures failure List.mem_cons_self
      exact ⟨kept, failure, login, again, split, unchanged, left,
        reused again (List.mem_singleton_self again)⟩
    · simp at count
  · -- the second call has a token, so it did not fail
    obtain ⟨⟨fault, stopped⟩, -⟩ := failures other (by simp)
    simp [stopped, Except.toOption] at second

end History

end TokenFlow
