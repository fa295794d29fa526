/-
# TokenFlow.Proofs.RenewalLedger -- what a call asks, keeps and comes to

A stretch of a login has a `Ledger`: its enquiries, after which the refresh token is the one
that their answers leave, and which present no other refresh token than the one kept at
that moment.  Stretches that follow one another put their ledgers together
(`Ledger.trans`), so a whole call has one, whatever it comes to.

What it comes to is told by the same enquiries: `LogInEnds`, `FlowEnds` and `CallEnds` list
the ways in which a login, a flow and a call can end.  Those that end in a fault have in
common that nothing was granted before the last answer (`Fails`).
-/
import TokenFlow.Proofs.CodeCall
import TokenFlow.Proofs.TokenEnquiry

namespace TokenFlow

set_option autoImplicit false

open TokenFlow.Number TokenFlow.Callback

/-! ## Ledgers -/

/-- Every renewal presents the refresh token that is kept when it is asked for. -/
def Presents : Option String → List Enquiry → Prop
  | _, [] => True
  | kept, entry :: entries =>
      (entry.isRenewal = true →
        ∃ token, nonempty? kept = some token ∧ entry.presented? = some token) ∧
      Presents (entry.keeps kept) entries

theorem Presents.append {kept : Option String} {first later : List Enquiry}
    (one : Presents kept first) (two : Presents (first.foldl Enquiry.keeps kept) later) :
    Presents kept (first ++ later) := by
  induction first generalizing kept with
  | nil => exact two
  | cons entry first ih => exact ⟨one.1, ih one.2 two⟩

theorem Presents.of_append {kept : Option String} {first later : List Enquiry}
    (both : Presents kept (first ++ later)) :
    Presents (first.foldl Enquiry.keeps kept) later := by
  induction first generalizing kept with
  | nil => exact both
  | cons entry first ih => exact ih both.2

/-- The enquiries of a stretch of a login, which account for the refresh token. -/
structure Login.Ledger (before after : Login) (entries : List Enquiry) : Prop where
  asks : before.world.Asks after.world entries
  kept : after.credentials.refreshToken =
    entries.foldl Enquiry.keeps before.credentials.refreshToken
  presents : Presents before.credentials.refreshToken entries

namespace Login.Ledger

variable {before middle after : Login} {first later : List Enquiry}

theorem nil (asks : before.world.Asks after.world [])
    (kept : after.credentials.refreshToken = before.credentials.refreshToken) :
    before.Ledger after [] :=
  ⟨asks, kept, trivial⟩

theorem trans (one : before.Ledger middle first) (two : middle.Ledger after later) :
    before.Ledger after (first ++ later) where
  asks := one.asks.trans two.asks
  kept := by rw [two.kept, one.kept, List.foldl_append]
  presents := by
    have presents := two.presents
    rw [one.kept] at presents
    exact one.presents.append presents

/-- What is not in the ledger may change before and after. -/
theorem congr {before' after' : Login} {entries : List Enquiry}
    (ledger : before.Ledger after entries) (world : before'.world = before.world)
    (had : before'.credentials.refreshToken = before.credentials.refreshToken)
    (world' : after'.world = after.world)
    (has : after'.credentials.refreshToken = after.credentials.refreshToken) :
    before'.Ledger after' entries where
  asks := by rw [world, world']; exact ledger.asks
  kept := by rw [has, had]; exact ledger.kept
  presents := by rw [had]; exact ledger.presents

end Login.Ledger

namespace CodeProvider

variable (provider : CodeProvider)

/-! ## Token requests -/

theorem ledger_renewed (endpoint : String) (form : Http.Form) (login : Login)
    (log : List LogEntry)
    (presents : (Provider.tokenEnquiry endpoint form login.world).isRenewal = true →
      ∃ token, nonempty? login.credentials.refreshToken = some token ∧
        (Provider.tokenEnquiry endpoint form login.world).presented? = some token) :
    login.Ledger
      (login.renewed ((Provider.tokenEnquiry endpoint form login.world).keeps
          login.credentials.refreshToken)
        { (Provider.submit endpoint form login.world).2 with log })
      [Provider.tokenEnquiry endpoint form login.world] where
  asks := (Provider.submit_asks endpoint form login.world).trans_right (.of_eq rfl rfl)
  kept := rfl
  presents := ⟨presents, trivial⟩

theorem exchange_ledger (code redirectUri verifier : String) (login : Login) :
    ∃ entry, login.Ledger (provider.exchange code redirectUri verifier login).2 [entry] ∧
      (provider.exchange code redirectUri verifier login).1 =
        entry.credential .exchange provider.tokenEndpoint login.world.clock := by
  obtain ⟨log, exchanged⟩ := provider.exchange_eq code redirectUri verifier login
  refine ⟨_, ?_, congrArg Prod.fst exchanged⟩
  rw [exchanged]
  -- the grant type of an exchange is another one
  exact ledger_renewed _ _ login log fun renewal => by cases renewal

/-- Renewal asks nothing when there is no refresh token, and presents it otherwise. -/
theorem renew_ledger (login : Login) :
    provider.renew login = (.ok none, login) ∨
      ∃ entry, login.Ledger (provider.renew login).2 [entry] ∧
        (provider.renew login).1 =
          entry.renewal provider.tokenEndpoint login.world.clock := by
  rw [renew, Act.bind_of_ok (Act.get_apply login)]
  cases kept : nonempty? login.credentials.refreshToken with
  | none => exact .inl rfl
  | some token =>
      obtain ⟨log, refreshed⟩ := provider.refresh_eq token login
      refine .inr ⟨_, ?_, congrArg Prod.fst refreshed⟩
      show login.Ledger (provider.refresh token login).2 _
      rw [refreshed]
      exact ledger_renewed _ _ login log fun _ => ⟨token, kept, rfl⟩

/-! ## Logins -/

/-- Why a login with these prospects may get no code. -/
inductive Codeless (prospects : Prospects) : Fault → Prop
  | failure (cause : Failure) : Codeless prospects (.failure cause)
  | raised {fault : Fault} (raised : prospects.opening = .raised fault) : Codeless prospects fault
  | endless (endless : provider.callbackTimeout.toBinary64? = none) : Codeless prospects .overflow
  | refused (refused : provider.callbackTimeout.exceeds prospects.longestWait = true) :
      Codeless prospects .overflow
  | verifierLength (outside : ¬ ((ProofKey.minLength : Int) ≤ provider.verifierLength ∧
      provider.verifierLength ≤ ProofKey.maxLength)) : Codeless prospects .verifierLength

variable {provider} {prospects : Prospects}

theorem Unstarted.codeless {fault : Fault} (unstarted : provider.Unstarted fault) :
    provider.Codeless prospects fault := by
  cases unstarted with
  | verifierLength outside => exact .verifierLength outside
  | listenerUnavailable detail => exact .failure _

theorem codeless_of_ends {requests : List (List UInt8)} {result : Except Fault String}
    {fault : Fault} (ends : provider.Ends prospects requests result)
    (h : result = .error fault) : provider.Codeless prospects fault := by
  cases ends with
  | decided opened reason =>
      unfold Outcome.result at h
      split at h
      · cases h
      · cases h
        exact .failure _
  | unopened cause unopened =>
      obtain rfl := Except.error.inj h
      rcases Opening.fault?_cases unopened with ⟨failure, rfl⟩ | raised
      · exact .failure failure
      · exact .raised raised
  | endless opened endless =>
      obtain rfl := Except.error.inj h
      rcases endless with endless | ⟨refused, -⟩
      · exact .endless endless
      · exact .refused refused

variable (provider)

/-- Up to its code a login asks the network nothing. -/
theorem obtainCode_asks (world : World) :
    world.Asks (provider.obtainCode world).2 [] ∧
      ∀ fault, (provider.obtainCode world).1 = .error fault →
        provider.Codeless world.prospects fault := by
  rcases provider.obtainCode_cases world with
    ⟨cause, entropy, bindFails, listener, unstarted, obtained⟩ |
    ⟨exchanges, entropy, listener, clock, log, result, ending, obtained⟩
  · rw [obtained]
    refine ⟨.of_eq rfl rfl, fun fault h => ?_⟩
    obtain rfl : cause = fault := Except.error.inj h
    exact unstarted.codeless
  · rw [obtained]
    constructor
    · exact .of_silent rfl (provider.request?_visitEvents world.prospects exchanges) rfl
    · intro fault h
      cases result with
      | ok code => cases h
      | error cause =>
          obtain rfl : cause = fault := Except.error.inj h
          exact codeless_of_ends ending rfl

/-- How a login ends: without a code, or as the answer to its code says. -/
inductive LogInEnds (prospects : Prospects) : List Enquiry → Except Fault Credential → Prop
  | codeless {fault : Fault} (codeless : provider.Codeless prospects fault) :
      LogInEnds prospects [] (.error fault)
  | exchanged (entry : Enquiry) (clock : Binary64) :
      LogInEnds prospects [entry] (entry.credential .exchange provider.tokenEndpoint clock)

theorem logIn_ledger (login : Login) :
    ∃ entries, login.Ledger (provider.logIn login).2 entries ∧
      provider.LogInEnds login.world.prospects entries (provider.logIn login).1 := by
  obtain ⟨asks, codeless⟩ := provider.obtainCode_asks login.world
  rcases obtained : provider.obtainCode login.world with ⟨fault | authorization, world⟩
  · rw [obtained] at asks codeless
    rw [logIn, Act.bind_of_error (Login.inWorld_of obtained)]
    exact ⟨[], .nil asks rfl, .codeless (codeless fault rfl)⟩
  · rw [obtained] at asks
    rw [logIn, Act.bind_of_ok (Login.inWorld_of obtained)]
    obtain ⟨entry, ledger, result⟩ := provider.exchange_ledger authorization.code
      authorization.redirectUri authorization.verifier { login with world }
    have coded : login.Ledger { login with world } [] := .nil asks rfl
    refine ⟨[entry], coded.trans ledger, ?_⟩
    show provider.LogInEnds login.world.prospects [entry]
      (provider.exchange authorization.code _ _ { login with world }).1
    rw [result]
    exact .exchanged entry _

/-! ## Flows and calls -/

/-- How a flow ends: with renewal, or with a login after it. -/
inductive FlowEnds (prospects : Prospects) : List Enquiry → Except Fault Credential → Prop
  | renewed {entry : Enquiry} {clock : Binary64} {credential : Credential}
      (renewed : entry.renewal provider.tokenEndpoint clock = .ok (some credential)) :
      FlowEnds prospects [entry] (.ok credential)
  | stopped {entry : Enquiry} {clock : Binary64} {fault : Fault}
      (stopped : entry.renewal provider.tokenEndpoint clock = .error fault) :
      FlowEnds prospects [entry] (.error fault)
  | refused {entry : Enquiry} {clock : Binary64} {entries : List Enquiry}
      {result : Except Fault Credential}
      (refused : entry.renewal provider.tokenEndpoint clock = .ok none)
      (logsIn : provider.LogInEnds prospects entries result) :
      FlowEnds prospects (entry :: entries) result
  | loggedIn {entries : List Enquiry} {result : Except Fault Credential}
      (logsIn : provider.LogInEnds prospects entries result) : FlowEnds prospects entries result

theorem flow_ledger (login : Login) :
    ∃ entries, login.Ledger (provider.flow login).2 entries ∧
      provider.FlowEnds login.world.prospects entries (provider.flow login).1 := by
  rcases provider.renew_ledger login with untried | ⟨entry, ledger, result⟩
  · rw [flow, Act.bind_of_ok untried]
    obtain ⟨entries, ledger, ends⟩ := provider.logIn_ledger login
    exact ⟨entries, ledger, .loggedIn ends⟩
  · obtain ⟨_, -, adds⟩ := provider.renew_adds login
    rcases renewed : provider.renew login with ⟨fault | credential | none, after⟩
    · rw [renewed] at ledger result
      rw [flow, Act.bind_of_error renewed]
      exact ⟨[entry], ledger, .stopped result.symm⟩
    · rw [renewed] at ledger result adds
      rw [flow, Act.bind_of_ok renewed]
      obtain ⟨entries, ledger', ends⟩ := provider.logIn_ledger after
      rw [adds.prospects] at ends
      exact ⟨entry :: entries, ledger.trans ledger', .refused result.symm ends⟩
    · rw [renewed] at ledger result
      rw [flow, Act.bind_of_ok renewed]
      exact ⟨[entry], ledger, .renewed result.symm⟩

/-- How a call ends: with a kept token, or as its flow ends. -/
inductive CallEnds (prospects : Prospects) : List Enquiry → Except Fault String → Prop
  | kept (value : String) : CallEnds prospects [] (.ok value)
  | flow {entries : List Enquiry} {result : Except Fault Credential}
      (ends : provider.FlowEnds prospects entries result) :
      CallEnds prospects entries (result.map fun credential => credential.value)

theorem getToken_ledger (login : Login) :
    ∃ entries, login.Ledger (provider.getToken login).2 entries ∧
      provider.CallEnds login.world.prospects entries (provider.getToken login).1 := by
  cases look : login.credentials.usable? login.world.clock buffer with
  | some value =>
      rw [getToken_of_usable look]
      exact ⟨[], .nil (.refl _) rfl, .kept value⟩
  | none =>
      obtain ⟨entries, ledger, ends⟩ := provider.flow_ledger (login.setLocked true)
      obtain ⟨result, world, kept⟩ := @getToken_of_flow provider login look
      refine ⟨entries, ledger.congr rfl rfl world kept, ?_⟩
      rw [result]
      exact .flow ends

/-! ## Failures -/

/-- How a call fails: its login got no code, or the last answer gives no credential.  No
answer before that was a grant. -/
inductive Fails (prospects : Prospects) (fault : Fault) : List Enquiry → Prop
  | codeless {entries : List Enquiry} (codeless : provider.Codeless prospects fault)
      (ungranted : ∀ entry ∈ entries, entry.grant? = none) : Fails prospects fault entries
  | answered {earlier : List Enquiry} {last : Enquiry} {step : GrantStep} {clock : Binary64}
      (ungranted : ∀ entry ∈ earlier, entry.grant? = none)
      (stopped : last.credential step provider.tokenEndpoint clock = .error fault) :
      Fails prospects fault (earlier ++ [last])

variable {provider} {prospects : Prospects} {entries earlier : List Enquiry} {fault : Fault}

theorem LogInEnds.fails {result : Except Fault Credential}
    (ends : provider.LogInEnds prospects entries result) (h : result = .error fault)
    (ungranted : ∀ entry ∈ earlier, entry.grant? = none) :
    provider.Fails prospects fault (earlier ++ entries) := by
  cases ends with
  | codeless codeless =>
      rw [List.append_nil, ← Except.error.inj h]
      exact .codeless codeless ungranted
  | exchanged entry clock => exact .answered ungranted h

theorem FlowEnds.fails {result : Except Fault Credential}
    (ends : provider.FlowEnds prospects entries result) (h : result = .error fault) :
    provider.Fails prospects fault entries := by
  have nothing : ∀ entry ∈ ([] : List Enquiry), entry.grant? = none := List.forall_mem_nil _
  cases ends with
  | renewed renewed => cases h
  | @stopped entry clock cause stopped =>
      obtain rfl : cause = fault := Except.error.inj h
      exact .answered nothing (Enquiry.credential_of_renewal stopped)
  | @refused entry clock entries result refused logsIn =>
      -- the login comes behind a renewal that was no grant
      have ungranted : ∀ one ∈ [entry], one.grant? = none :=
        List.forall_mem_singleton.mpr (Enquiry.not_granted_of_renewal refused)
      exact logsIn.fails h ungranted
  | loggedIn logsIn => exact logsIn.fails h nothing

theorem CallEnds.fails {result : Except Fault String}
    (ends : provider.CallEnds prospects entries result) (h : result = .error fault) :
    provider.Fails prospects fault entries := by
  cases ends with
  | kept value => cases h
  | @flow entries result ends =>
      cases result with
      | ok credential => cases h
      | error cause => exact ends.fails (congrArg _ (Except.error.inj h))

end CodeProvider

end TokenFlow
