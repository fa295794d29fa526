/-
# TokenFlow.Proofs.CallOrder -- what a call with a code does, and in which order

A call that finds a token does nothing.  Any other call may renew, visit a page and
exchange a code, in this order and each at most once: it renews exactly when there is a
refresh token, visits a page only when that brought no grant, and exchanges a code only
behind a visit (`LogInDeeds`).

A call that comes to a token has stored it, and the token is from the last answer of a
token endpoint (`FlowEnds.granted`): never from an earlier one, and never from a cache
that the call passed over.
-/
import TokenFlow.Proofs.Fallback
import TokenFlow.Proofs.Outline
import TokenFlow.Proofs.RenewalLedger

namespace TokenFlow

set_option autoImplicit false

open TokenFlow.Document TokenFlow.Number TokenFlow.Callback

/-! ## Credentials of grants -/

theorem Credential.value_of_ofGrant {grant : Grant} {clock : Binary64} {credential : Credential}
    (h : Credential.ofGrant grant clock = .ok credential) : credential.value = grant.bearer := by
  unfold Credential.ofGrant at h
  split at h
  · rw [← Except.ok.inj h]
  · cases h

namespace Enquiry

variable {entry : Enquiry} {endpoint : String} {clock : Binary64}

/-- A grant is the body of a final status 200. -/
theorem grant?_eq_some_iff {grant : Grant} :
    entry.grant? = some grant ↔
      ∃ response, entry.answer = .ok (.ok response) ∧ response.status = 200 ∧
        Grant.ofBody response.body = .ok grant := by
  unfold grant?
  constructor
  · intro h
    split at h
    · rename_i response answer
      split at h
      · rename_i fine
        cases read : Grant.ofBody response.body with
        | ok given =>
            rw [read] at h
            exact ⟨response, answer, fine, read.trans (congrArg _ (Option.some.inj h))⟩
        | error issues =>
            rw [read] at h
            cases h
      · cases h
    · cases h
  · rintro ⟨response, answer, fine, read⟩
    simp only [answer, fine, if_true, read, Except.toOption]

/-- A credential has the bearer value of its grant. -/
theorem granted_of_credential {step : GrantStep} {credential : Credential}
    (h : entry.credential step endpoint clock = .ok credential) :
    ∃ grant, entry.grant? = some grant ∧ credential.value = grant.bearer := by
  rcases entry.credential_cases step endpoint clock with
    ⟨grant, granted, given⟩ | ⟨fault, -, -, given⟩ | ⟨cause, -, -, given⟩
  · rw [h] at given
    exact ⟨grant, granted, Credential.value_of_ofGrant given.symm⟩
  · rw [h] at given
    cases given
  · rw [h] at given
    cases given

theorem granted_of_renewal {credential : Credential}
    (h : entry.renewal endpoint clock = .ok (some credential)) :
    ∃ grant, entry.grant? = some grant ∧ credential.value = grant.bearer := by
  unfold renewal at h
  split at h
  · rename_i given renewed
    obtain rfl : given = credential := Option.some.inj (Except.ok.inj h)
    exact granted_of_credential renewed
  · cases h
  · cases h

end Enquiry

namespace CodeProvider

variable {provider : CodeProvider} {prospects : Prospects} {entries : List Enquiry}
  {credential : Credential}

theorem LogInEnds.granted {result : Except Fault Credential}
    (ends : provider.LogInEnds prospects entries result) (h : result = .ok credential) :
    ∃ last grant, entries = [last] ∧ last.grant? = some grant ∧
      credential.value = grant.bearer := by
  cases ends with
  | codeless codeless => cases h
  | exchanged entry clock =>
      obtain ⟨grant, granted, value⟩ := Enquiry.granted_of_credential h
      exact ⟨entry, grant, rfl, granted, value⟩

/-- The credential of a flow is from its last answer. -/
theorem FlowEnds.granted {result : Except Fault Credential}
    (ends : provider.FlowEnds prospects entries result) (h : result = .ok credential) :
    ∃ earlier last grant, entries = earlier ++ [last] ∧ last.grant? = some grant ∧
      credential.value = grant.bearer := by
  cases ends with
  | @renewed entry clock given renewed =>
      obtain rfl : given = credential := Except.ok.inj h
      obtain ⟨grant, granted, value⟩ := Enquiry.granted_of_renewal renewed
      exact ⟨[], entry, grant, rfl, granted, value⟩
  | stopped stopped => cases h
  | @refused entry clock entries result refused logsIn =>
      obtain ⟨last, grant, rfl, granted, value⟩ := logsIn.granted h
      exact ⟨[entry], last, grant, rfl, granted, value⟩
  | loggedIn logsIn =>
      obtain ⟨last, grant, rfl, granted, value⟩ := logsIn.granted h
      exact ⟨[], last, grant, rfl, granted, value⟩

/-! ## Deeds -/

/-- What trying a refresh token is: one request of a client of its own, and nothing when
there is no refresh token. -/
def renewalDeeds (provider : CodeProvider) (refreshToken : Option String) : List Event :=
  match nonempty? refreshToken with
  | some token => Provider.tokenEvents provider.tokenEndpoint (provider.refreshForm token)
  | none => []

/-- What a login does: nothing; or it visits a page; or it exchanges the code of a visit
too.  The listener is up during the visit. -/
inductive LogInDeeds (provider : CodeProvider) (prospects : Prospects) :
    (visit exchange : List Event) → Prop
  | unvisited : LogInDeeds provider prospects [] []
  | visited (url : String) : LogInDeeds provider prospects [.listen, .browser url, .close] []
  | exchanged (url code : String) :
      LogInDeeds provider prospects [.listen, .browser url, .close]
        (Provider.tokenEvents provider.tokenEndpoint (provider.codeForm prospects code))

theorem outline_visitEvents (provider : CodeProvider) (prospects : Prospects)
    (exchanges : List (List UInt8 × Answer)) :
    outline (provider.visitEvents prospects exchanges) =
      [.listen, .browser (provider.loginUrl prospects), .close] := by
  rw [visitEvents, List.cons_append, List.cons_append, outline_cons_of_isDeed rfl,
    outline_cons_of_isDeed rfl, outline_append, outline_exchangeEvents]
  rfl

theorem LogsIn.deeds {events : List Event} {result : Except Fault Credential}
    (logsIn : provider.LogsIn prospects events result) :
    ∃ visit exchange, outline events = visit ++ exchange ∧
      provider.LogInDeeds prospects visit exchange := by
  cases logsIn with
  | unopened fault => exact ⟨[], [], rfl, .unvisited⟩
  | refused exchanges fault ending =>
      exact ⟨_, [], provider.outline_visitEvents prospects exchanges, .visited _⟩
  | exchanged exchanges code redirects result ending only =>
      refine ⟨_, _, ?_, .exchanged (provider.loginUrl prospects) code⟩
      rw [outline_append, provider.outline_visitEvents, outline_tokenEvents _ _ only]

theorem Renews.deeds {refreshToken : Option String} {events : List Event}
    (renews : provider.Renews refreshToken events) :
    outline events = provider.renewalDeeds refreshToken := by
  unfold Renews at renews
  unfold renewalDeeds
  cases given : nonempty? refreshToken with
  | none =>
      rw [given] at renews
      rw [renews]
      rfl
  | some token =>
      rw [given] at renews
      obtain ⟨redirects, only, rfl⟩ := renews
      exact outline_tokenEvents _ _ only

variable (provider)

/-- Renewal does what its refresh token asks for; when it comes to nothing, its answer was
no grant. -/
theorem renew_deeds (login : Login) :
    ∃ events entries,
      (provider.renew login).2.world.trace = login.world.trace ++ events ∧
      outline events = provider.renewalDeeds login.credentials.refreshToken ∧
      (provider.renew login).2.world.prospects = login.world.prospects ∧
      login.world.Asks (provider.renew login).2.world entries ∧
      ((provider.renew login).1 = .ok none → ∀ entry ∈ entries, entry.grant? = none) := by
  obtain ⟨events, renews, adds⟩ := provider.renew_adds login
  rcases provider.renew_ledger login with untried | ⟨entry, ledger, result⟩
  · refine ⟨events, [], adds.trace, renews.deeds, adds.prospects, ?_,
      fun _ => List.forall_mem_nil _⟩
    rw [untried]
    exact .refl login.world
  · refine ⟨events, [entry], adds.trace, renews.deeds, adds.prospects, ledger.asks,
      fun came => ?_⟩
    rw [result] at came
    exact List.forall_mem_singleton.mpr (Enquiry.not_granted_of_renewal came)

/-- A login does one thing after another, and renews nothing. -/
theorem logIn_deeds (login : Login) :
    ∃ events visit exchange entries,
      (provider.logIn login).2.world.trace = login.world.trace ++ events ∧
      outline events = visit ++ exchange ∧
      provider.LogInDeeds login.world.prospects visit exchange ∧
      login.world.Asks (provider.logIn login).2.world entries ∧
      ∀ entry ∈ entries, entry.isRenewal = false := by
  obtain ⟨events, logsIn, trace⟩ := provider.logIn_logsIn login
  obtain ⟨visit, exchange, deeds, kind⟩ := logsIn.deeds
  obtain ⟨entries, ledger, -⟩ := provider.logIn_ledger login
  refine ⟨events, visit, exchange, entries, trace, deeds, kind, ledger.asks, ?_⟩
  intro entry found
  obtain ⟨event, here, request⟩ := ledger.asks.request_mem trace found
  have unrenewed := logsIn.once.1 event here
  rwa [Event.isRenewal, request] at unrenewed

/-- A flow renews, and logs in only when that brought no grant. -/
theorem flow_deeds (login : Login) :
    ∃ events visit exchange entries,
      (provider.flow login).2.world.trace = login.world.trace ++ events ∧
      outline events =
        provider.renewalDeeds login.credentials.refreshToken ++ visit ++ exchange ∧
      provider.LogInDeeds login.world.prospects visit exchange ∧
      login.world.Asks (provider.flow login).2.world entries ∧
      (visit ≠ [] → ∀ entry ∈ entries, entry.isRenewal = true → entry.grant? = none) := by
  obtain ⟨tried, tries, trace, deeds, prospects, asks, ungranted⟩ := provider.renew_deeds login
  -- without a login there is no visit
  have ended {after : Login} (trace : after.world.trace = login.world.trace ++ tried)
      (asks : login.world.Asks after.world tries) :
      ∃ events visit exchange entries, after.world.trace = login.world.trace ++ events ∧
        outline events =
          provider.renewalDeeds login.credentials.refreshToken ++ visit ++ exchange ∧
        provider.LogInDeeds login.world.prospects visit exchange ∧
        login.world.Asks after.world entries ∧
        (visit ≠ [] → ∀ entry ∈ entries, entry.isRenewal = true → entry.grant? = none) := by
    refine ⟨tried, [], [], tries, trace, ?_, .unvisited, asks, fun visited => ?_⟩
    · rw [deeds, List.append_nil, List.append_nil]
    · exact absurd rfl visited
  rcases renewed : provider.renew login with ⟨fault | credential | none, after⟩
  · rw [renewed] at trace asks
    rw [flow, Act.bind_of_error renewed]
    exact ended trace asks
  · rw [renewed] at trace prospects asks ungranted
    rw [flow, Act.bind_of_ok renewed]
    obtain ⟨events, visit, exchange, entries, trace', deeds', kind, asks', unrenewed⟩ :=
      provider.logIn_deeds after
    rw [prospects] at kind
    refine ⟨tried ++ events, visit, exchange, tries ++ entries, ?_, ?_, kind,
      asks.trans asks', fun _ entry found renewal => ?_⟩
    · exact trace'.trans (by rw [trace, List.append_assoc])
    · rw [outline_append, deeds, deeds', List.append_assoc]
    · rcases List.mem_append.mp found with early | late
      · exact ungranted rfl entry early
      · rw [unrenewed entry late] at renewal
        cases renewal
  · rw [renewed] at trace asks
    rw [flow, Act.bind_of_ok renewed]
    exact ended trace asks

/-! ## Calls -/

/-- A kept token that lasts for another thirty seconds is the result of a call, and the
call does nothing.  Any other call renews exactly when there is a refresh token, then
visits one page at most and only when no renewal was granted, and then exchanges one code
at most and only behind that visit.  When it comes to a token it has stored it, and this
is the identity token, or else the access token, of the last answer of the token endpoint,
a final status 200. -/
theorem getToken_in_order (provider : CodeProvider) (login : Login) :
    (∀ credential, login.credentials.token = some credential →
        credential.isExpired login.world.clock (Binary64.exactly 30) = false →
          provider.getToken login = (.ok credential.value, login)) ∧
      ((∀ credential, login.credentials.token = some credential →
          credential.isExpired login.world.clock (Binary64.exactly 30) = true) →
        ∃ events renewal visit exchange,
          (provider.getToken login).2.world.trace = login.world.trace ++ events ∧
          outline events = renewal ++ visit ++ exchange ∧
          (∀ token, token ≠ "" → login.credentials.refreshToken = some token →
            renewal = [.client (.create none true), .request (.post provider.tokenEndpoint
              (provider.refreshForm token) Provider.tokenHeaders)]) ∧
          (login.credentials.refreshToken = none ∨ login.credentials.refreshToken = some "" →
            renewal = []) ∧
          (visit = [] ∨ ∃ url, visit = [.listen, .browser url, .close]) ∧
          (exchange = [] ∨ visit ≠ [] ∧ ∃ code verifier,
            exchange = [.client (.create none true), .request (.post provider.tokenEndpoint
              (provider.exchangeForm code (redirectUri login.world.nextPort) verifier)
              Provider.tokenHeaders)]) ∧
          (visit ≠ [] → ∀ entry ∈ login.world.asked (provider.getToken login).2.world,
            entry.isRenewal = true → entry.grant? = none) ∧
          ∀ value, (provider.getToken login).1 = .ok value →
            (∃ credential,
              (provider.getToken login).2.credentials.token = some credential ∧
                credential.value = value) ∧
            ∃ earlier last response grant,
              login.world.asked (provider.getToken login).2.world = earlier ++ [last] ∧
              last.answer = .ok (.ok response) ∧ response.status = 200 ∧
              Grant.ofBody response.body = .ok grant ∧
              value = (nonempty? grant.idToken).getD grant.accessToken) := by
  constructor
  · intro credential kept lasts
    exact getToken_of_usable (Credentials.usable?_of_lasting kept lasts)
  · intro ended
    have look := Credentials.usable?_eq_none_iff.mpr ended
    obtain ⟨result, world, -⟩ := @getToken_of_flow provider login look
    obtain ⟨events, visit, exchange, entries, trace, deeds, kind, asks, ungranted⟩ :=
      provider.flow_deeds (login.setLocked true)
    obtain ⟨entries', ledger, ends⟩ := provider.flow_ledger (login.setLocked true)
    have asked : login.world.asked (provider.getToken login).2.world = entries := by
      rw [world]
      exact asks.asked_eq
    obtain rfl : entries = entries' := asks.asked_eq.symm.trans ledger.asks.asked_eq
    rw [asked, result]
    refine ⟨events, provider.renewalDeeds login.credentials.refreshToken, visit, exchange,
      (congrArg World.trace world).trans trace, deeds, ?_, ?_, ?_, ?_, ungranted, ?_⟩
    · intro token full kept
      rw [renewalDeeds, nonempty?_eq_some_iff.mpr ⟨kept, full⟩]
      rfl
    · rintro (none | empty)
      · rw [none]
        rfl
      · rw [empty]
        rfl
    · cases kind with
      | unvisited => exact .inl rfl
      | visited url => exact .inr ⟨url, rfl⟩
      | exchanged url code => exact .inr ⟨url, rfl⟩
    · cases kind with
      | unvisited => exact .inl rfl
      | visited url => exact .inl rfl
      | exchanged url code => exact .inr ⟨List.cons_ne_nil _ _, code, _, rfl⟩
    · intro value came
      refine ⟨@Provider.token_of_ok (.code provider) login value look (result.trans came), ?_⟩
      cases flown : (provider.flow (login.setLocked true)).1 with
      | error fault =>
          rw [flown] at came
          cases came
      | ok credential =>
          obtain ⟨earlier, last, grant, split, granted, bearer⟩ := ends.granted flown
          obtain ⟨response, answer, fine, read⟩ := Enquiry.grant?_eq_some_iff.mp granted
          rw [flown] at came
          obtain rfl : credential.value = value := Except.ok.inj came
          exact ⟨earlier, last, response, grant, split, answer, fine, read, bearer⟩

/-- The call with a stale token goes all the way: the issuer refuses its refresh token, and
it comes to the token of the login that follows. -/
theorem staleCall_in_order :
    ∃ url exchange credential, exchange ≠ [] ∧
      outline (client.getToken staleCall).2.world.trace =
        Provider.tokenEvents client.tokenEndpoint (client.refreshForm "r")
          ++ [.listen, .browser url, .close] ++ exchange ∧
      (client.getToken staleCall).2.credentials.token = some credential ∧
      credential.value = "t" := by
  have came : (client.getToken staleCall).1.toOption = some "t" ∧
      (outline (client.getToken staleCall).2.world.trace).length = 7 := by decide +kernel
  obtain ⟨result, length⟩ := came
  obtain ⟨-, order⟩ := getToken_in_order client staleCall
  obtain ⟨events, renewal, visit, exchange, trace, deeds, renews, -, visits, exchanges, -,
    stored⟩ := order (isExpired_refusedCall _)
  have traced : (client.getToken staleCall).2.world.trace = events := trace
  obtain rfl := renews "r" (by decide) rfl
  rw [traced, deeds] at length
  simp only [List.length_append, List.length_cons, List.length_nil] at length
  -- two events for the renewal, three for the visit, and so two for the exchange
  obtain ⟨code, verifier, exchanged⟩ : ∃ code verifier, exchange = Provider.tokenEvents
      client.tokenEndpoint
        (client.exchangeForm code (redirectUri staleCall.world.nextPort) verifier) := by
    rcases exchanges with rfl | ⟨-, posted⟩
    · rcases visits with rfl | ⟨url, rfl⟩ <;> simp at length
    · exact posted
  obtain ⟨url, rfl⟩ : ∃ url, visit = [.listen, .browser url, .close] := by
    rcases visits with rfl | visited
    · rw [exchanged] at length
      simp [Provider.tokenEvents] at length
    · exact visited
  rcases returned : (client.getToken staleCall).1 with fault | value
  · rw [returned] at result
    cases result
  · rw [returned] at result
    obtain rfl : value = "t" := Option.some.inj result
    obtain ⟨⟨credential, kept, bearer⟩, -⟩ := stored "t" returned
    refine ⟨url, exchange, credential, ?_, ?_, kept, bearer⟩
    · rw [exchanged]
      exact List.cons_ne_nil _ _
    · rw [traced, deeds]
      rfl

end CodeProvider

end TokenFlow
