/-
# TokenFlow.Proofs.Obtained -- where a new token comes from

A flow that gets a credential got it with the answer to its last enquiry, by the clock at
its end: the clock does not move once the answer is there (`flow_obtains`).  So a call that
finds no usable token and comes to one has asked for it, and leaves the credential that the
last grant gives at the end of the call (`obtains_of_missed`).  A call that obtains no token
leaves the one that it found, whatever it comes to (`token_of_unobtained`).
-/
import TokenFlow.Proofs.CallOrder
import TokenFlow.Proofs.HistoryCalls

namespace TokenFlow

set_option autoImplicit false

open TokenFlow.Number TokenFlow.Document

/-! ## Credentials of a flow -/

namespace Enquiry

variable {entry : Enquiry} {endpoint : String} {clock : Binary64} {credential : Credential}

theorem ofGrant_of_credential {step : GrantStep}
    (given : entry.credential step endpoint clock = .ok credential) :
    ∃ grant, entry.grant? = some grant ∧ Credential.ofGrant grant clock = .ok credential := by
  rcases entry.credential_cases step endpoint clock with
    ⟨grant, granted, same⟩ | ⟨fault, -, -, same⟩ | ⟨cause, -, -, same⟩
  · exact ⟨grant, granted, same.symm.trans given⟩
  · cases same.symm.trans given
  · cases same.symm.trans given

theorem credential_of_renewed (renewed : entry.renewal endpoint clock = .ok (some credential)) :
    entry.credential .refresh endpoint clock = .ok credential := by
  unfold renewal at renewed
  split at renewed
  · rename_i given came
    rw [came, Option.some.inj (Except.ok.inj renewed)]
  · cases renewed
  · cases renewed

end Enquiry

/-- In between a credential was obtained: from a grant that answers the last enquiry, by the
clock at the end. -/
def World.Obtains (before after : World) (credential : Credential) : Prop :=
  ∃ earlier last grant, before.Asks after (earlier ++ [last]) ∧ last.grant? = some grant ∧
    Credential.ofGrant grant after.clock = .ok credential

/-- What was asked before does not matter. -/
theorem World.Obtains.behind {before middle after : World} {entries : List Enquiry}
    {credential : Credential} (obtains : middle.Obtains after credential)
    (asks : before.Asks middle entries) : before.Obtains after credential := by
  obtain ⟨earlier, last, grant, asks', granted, given⟩ := obtains
  refine ⟨entries ++ earlier, last, grant, ?_, granted, given⟩
  rw [List.append_assoc]
  exact asks.trans asks'

theorem World.Obtains.asked_ne_nil {before after : World} {credential : Credential}
    (obtains : before.Obtains after credential) : before.asked after ≠ [] := by
  obtain ⟨earlier, last, grant, asks, -⟩ := obtains
  simp [asks.asked_eq]

namespace CodeProvider

variable {provider : CodeProvider} {login : Login} {credential : Credential}

theorem exchange_obtains {code redirectUri verifier : String}
    (came : (provider.exchange code redirectUri verifier login).1 = .ok credential) :
    login.world.Obtains (provider.exchange code redirectUri verifier login).2.world credential := by
  obtain ⟨log, exchanged⟩ := provider.exchange_eq code redirectUri verifier login
  have clock : (provider.exchange code redirectUri verifier login).2.world.clock =
      login.world.clock := by
    rw [exchanged]
    exact Provider.clock_submit _ _ _
  obtain ⟨entry, ledger, result⟩ := provider.exchange_ledger code redirectUri verifier login
  obtain ⟨grant, granted, given⟩ := Enquiry.ofGrant_of_credential (result.symm.trans came)
  exact ⟨[], entry, grant, ledger.asks, granted, by rw [clock, given]⟩

theorem clock_renew (provider : CodeProvider) (login : Login) :
    (provider.renew login).2.world.clock = login.world.clock := by
  rw [renew, Act.bind_of_ok (Act.get_apply login)]
  cases nonempty? login.credentials.refreshToken with
  | none => rfl
  | some token =>
      obtain ⟨log, refreshed⟩ := provider.refresh_eq token login
      show (provider.refresh token login).2.world.clock = _
      rw [refreshed]
      exact Provider.clock_submit _ _ _

theorem renew_obtains (came : (provider.renew login).1 = .ok (some credential)) :
    login.world.Obtains (provider.renew login).2.world credential := by
  rcases provider.renew_ledger login with untried | ⟨entry, ledger, result⟩
  · rw [untried] at came
    cases came
  · obtain ⟨grant, granted, given⟩ := Enquiry.ofGrant_of_credential
      (Enquiry.credential_of_renewed (result.symm.trans came))
    exact ⟨[], entry, grant, ledger.asks, granted, by rw [provider.clock_renew, given]⟩

theorem logIn_obtains (came : (provider.logIn login).1 = .ok credential) :
    login.world.Obtains (provider.logIn login).2.world credential := by
  obtain ⟨asks, -⟩ := provider.obtainCode_asks login.world
  unfold logIn at came ⊢
  rcases obtained : provider.obtainCode login.world with ⟨fault | authorization, world⟩
  · rw [Act.bind_of_error (Login.inWorld_of obtained)] at came
    cases came
  · rw [obtained] at asks
    rw [Act.bind_of_ok (Login.inWorld_of obtained)] at came ⊢
    exact (exchange_obtains came).behind asks

theorem flow_obtains (came : (provider.flow login).1 = .ok credential) :
    login.world.Obtains (provider.flow login).2.world credential := by
  unfold flow at came ⊢
  rcases renewed : provider.renew login with ⟨fault | _ | given, after⟩
  · rw [Act.bind_of_error renewed] at came
    cases came
  · rw [Act.bind_of_ok renewed] at came ⊢
    obtain ⟨events, entries, -, -, -, asks, -⟩ := provider.renew_deeds login
    rw [renewed] at asks
    exact (logIn_obtains came).behind asks
  · rw [Act.bind_of_ok renewed] at came ⊢
    obtain rfl : given = credential := Except.ok.inj came
    have obtains := @renew_obtains provider login given (by rw [renewed])
    rwa [renewed] at obtains

end CodeProvider

/-! ## Calls -/

namespace Call

variable {call : Call} {provider : CodeProvider} {value : String}

/-- What it asks the network. -/
def asked (call : Call) : List Enquiry :=
  call.agent.world.asked call.after.world

/-- It goes for a new token: the refresh token is tried, and else there is a login. -/
def Acquires (call : Call) : Prop :=
  ∃ provider, call.provider = .code provider ∧
    call.result = ((provider.flow (call.login.setLocked true)).1.map
      fun credential => credential.value) ∧
    call.after.world = (provider.flow (call.login.setLocked true)).2.world

/-- It came to a token by asking for one. -/
def Obtains (call : Call) : Prop :=
  (∃ value, call.result = .ok value) ∧ call.asked ≠ []

theorem asked_of_usable
    (look : call.found.usable? call.agent.world.clock call.provider.buffer = some value) :
    call.asked = [] := by
  have reused : call.member.account.getToken call.agent = (.ok value, call.agent) :=
    Account.getToken_of_usable look
  rw [asked, after, reused]
  exact (World.Asks.refl _).asked_eq

section Missed

variable (kind : call.provider = .code provider)
  (missed : call.found.usable? call.agent.world.clock call.provider.buffer = none)

include kind missed

theorem acquires_of_missed : call.Acquires := by
  obtain ⟨result, world, -⟩ := @Provider.getToken_of_flow call.provider call.login missed
  rw [kind] at result world
  refine ⟨provider, kind, ?_, ?_⟩
  · rw [result_eq, kind]
    exact result
  · show (call.provider.getToken call.login).2.world = _
    rw [kind]
    exact world

/-- A call that finds no usable token and comes to one has obtained it, and leaves it. -/
theorem obtains_of_missed (came : call.result = .ok value) :
    ∃ credential, call.left.token = some credential ∧ credential.value = value ∧
      call.agent.world.Obtains call.after.world credential := by
  have called := @Provider.getToken_of_none call.provider call.login missed
  rw [Provider.acquire_eq] at called
  rcases flown : call.provider.flow (call.login.setLocked true) with ⟨fault | credential, after⟩
  · rw [Act.bind_of_error flown] at called
    rw [result_eq, called] at came
    cases came
  · rw [Act.bind_of_ok flown] at called
    rw [result_eq, called] at came
    refine ⟨credential, by rw [left, called]; rfl, Except.ok.inj came, ?_⟩
    have flows : provider.flow (call.login.setLocked true) = (.ok credential, after) := by
      rw [← flown, kind]
      rfl
    have obtains := @CodeProvider.flow_obtains provider (call.login.setLocked true) credential
      (by rw [flows])
    have world : call.after.world = after.world := congrArg (fun ended => ended.2.world) called
    rw [flows] at obtains
    rw [world]
    exact obtains

/-- It has done something. -/
theorem trace_ne_of_missed (came : call.result = .ok value) :
    call.after.world.trace ≠ call.agent.world.trace := by
  intro same
  obtain ⟨credential, -, -, obtains⟩ := obtains_of_missed kind missed came
  apply obtains.asked_ne_nil
  rw [World.asked, same, List.drop_length]
  rfl

end Missed

/-- A call that obtains no token leaves the one that it found. -/
theorem token_of_unobtained (kind : call.provider = .code provider)
    (unobtained : ¬ call.Obtains) : call.left.token = call.found.token := by
  cases look : call.found.usable? call.agent.world.clock call.provider.buffer with
  | some value => rw [(of_usable look).2]
  | none =>
      cases result : call.result with
      | error fault => exact Provider.token_of_error result
      | ok value =>
          obtain ⟨credential, -, -, obtains⟩ := obtains_of_missed kind look result
          exact absurd ⟨⟨value, result⟩, obtains.asked_ne_nil⟩ unobtained

end Call

end TokenFlow
