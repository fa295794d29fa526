/-
# TokenFlow.Proofs.ExchangeFailures -- what a caller is told when its code is not exchanged

A code is exchanged with the last request of a call, and the answer to it decides
(`flow_of_codeGrant`).  A response is a grant when its final status is 200 and its body is one,
field by field (`Grants`).  Every other response is told with its status, and with the error of
the token endpoint when it reports one (`Tells`): a body may well be read as a grant and as a
report at once, and it is the status that says which it is.  The token that is kept changes
only with a grant.

Not everything that comes of an exchange is a token failure: a redirect that nothing can be
sent to stops the request, and that is passed on.  So is what is raised for a refusal that is
no report and whose text cannot be read (`illegible_iff`).
-/
import TokenFlow.Proofs.CallOrder
import TokenFlow.Proofs.DocumentFields
import TokenFlow.Proofs.Obtained

namespace TokenFlow

set_option autoImplicit false

open TokenFlow.Document TokenFlow.Number

/-! ## Responses of a token endpoint -/

namespace Http.Response

variable {response : Http.Response} {grant : Grant} {refusal : Refusal}

/-- A response that grants a token. -/
def Grants (response : Http.Response) (grant : Grant) : Prop :=
  response.status = 200 ∧
    ∃ fields, Json.Value.ofOctets? response.body = some (.object fields) ∧
      grant.Describes fields

/-- A response that reports an error. -/
def Reports (response : Http.Response) (refusal : Refusal) : Prop :=
  response.status ≠ 200 ∧
    ∃ fields, Json.Value.ofOctets? response.body = some (.object fields) ∧
      refusal.Describes fields

theorem grants_iff :
    response.Grants grant ↔ response.status = 200 ∧ Grant.ofBody response.body = .ok grant := by
  rw [Grants, Grant.ofBody_eq_ok_iff]

theorem reports_iff :
    response.Reports refusal ↔
      response.status ≠ 200 ∧ Refusal.ofBody response.body = .ok refusal := by
  rw [Reports, Refusal.ofBody_eq_ok_iff]

theorem Reports.unique {refusal' : Refusal} (reports : response.Reports refusal)
    (reports' : response.Reports refusal') : refusal = refusal' := by
  have read := (reports_iff.mp reports).2
  have read' := (reports_iff.mp reports').2
  exact Except.ok.inj (read.symm.trans read')

/-- A failure tells what a response says: its status, the error when one is reported and no
error otherwise, and in its message the report, or the whole text when there is none. -/
structure Tells (response : Http.Response) (cause : TokenFailure) : Prop where
  status : cause.status? = some response.status
  error : ∀ error, cause.error? = some error ↔
    ∃ refusal, response.Reports refusal ∧ refusal.error = error
  report : ∀ refusal, response.Reports refusal →
    refusal.error.toList <:+: cause.message.toList ∧
      ∀ description, refusal.description = some description →
        description.toList <:+: cause.message.toList
  text : response.status ≠ 200 → (∀ refusal, ¬ response.Reports refusal) →
    ∃ text, response.text = .ok text ∧ text.toList <:+: cause.message.toList

/-- A refusal is illegible when it reports no error and there is a codec for it which raises. -/
theorem illegible_iff {cause : Foreign} :
    response.illegible? = some cause ↔ response.status ≠ 200 ∧
      (∀ refusal, ¬ response.Reports refusal) ∧ response.text = .error cause := by
  constructor
  · intro illegible
    obtain ⟨refused, text⟩ := status_of_illegible illegible
    refine ⟨refused, fun refusal reports => ?_, text⟩
    have read := (reports_iff.mp reports).2
    rw [illegible?, if_neg refused, read] at illegible
    cases illegible
  · rintro ⟨refused, unreported, text⟩
    cases read : Refusal.ofBody response.body with
    | ok refusal => exact absurd (reports_iff.mpr ⟨refused, read⟩) (unreported refusal)
    | error issues => rw [illegible?, if_neg refused, read, text]

end Http.Response

namespace Provider

variable {response : Http.Response}

/-- A text stands in a longer one. -/
theorem infix_append (before text after : String) :
    text.toList <:+: (before ++ text ++ after).toList := by
  refine ⟨before.toList, after.toList, ?_⟩
  rw [String.toList_append, String.toList_append]

theorem tells_reported (step : GrantStep) {refusal : Refusal}
    (reports : response.Reports refusal) :
    response.Tells (.refused step response.status refusal.error refusal.description) where
  status := rfl
  error error := by
    constructor
    · intro told
      exact ⟨refusal, reports, Option.some.inj told⟩
    · rintro ⟨refusal', reports', rfl⟩
      rw [reports'.unique reports]
      rfl
  report refusal' reports' := by
    rw [reports'.unique reports]
    constructor
    · have inside := infix_append (step.label ++ " failed: ") refusal.error
        (" - " ++ shown refusal.description)
      rwa [← String.append_assoc] at inside
    · intro description given
      have inside := infix_append (step.label ++ " failed: " ++ refusal.error ++ " - ")
        description ""
      rw [String.append_empty] at inside
      rwa [TokenFailure.message, given]
  text _ unreported := absurd reports (unreported refusal)

theorem tells_unreported (step : GrantStep)
    (unreported : ∀ refusal, ¬ response.Reports refusal) {text : String}
    (legible : response.text = .ok text) :
    response.Tells (.status step response.status text) where
  status := rfl
  error error := by
    constructor
    · intro told
      cases told
    · rintro ⟨refusal, reports, -⟩
      exact absurd reports (unreported refusal)
  report refusal reports := absurd reports (unreported refusal)
  text _ _ := by
    have inside := infix_append
      (step.label ++ " failed: HTTP " ++ toString response.status ++ ": ") text ""
    rw [String.append_empty] at inside
    exact ⟨text, legible, inside⟩

theorem tells_invalid (step : GrantStep) (fine : response.status = 200)
    (issues : List Issue) : response.Tells (.invalid step response.status issues) where
  status := rfl
  error error := by
    constructor
    · intro told
      cases told
    · rintro ⟨refusal, reports, -⟩
      exact absurd fine reports.1
  report refusal reports := absurd fine reports.1
  text failed _ := absurd fine failed

theorem grantOf_of_grants (step : GrantStep) {grant : Grant} (grants : response.Grants grant) :
    grantOf step response = .ok grant := by
  obtain ⟨fine, read⟩ := Http.Response.grants_iff.mp grants
  simp only [grantOf, fine, if_true, read]

theorem tells_of_refusalOf (step : GrantStep) (refused : response.status ≠ 200)
    {cause : TokenFailure} (h : refusalOf step response = .ok cause) : response.Tells cause := by
  unfold refusalOf at h
  cases read : Refusal.ofBody response.body with
  | ok refusal =>
      rw [read] at h
      obtain rfl := Except.ok.inj h
      exact tells_reported step (Http.Response.reports_iff.mpr ⟨refused, read⟩)
  | error issues =>
      have unreported : ∀ refusal, ¬ response.Reports refusal := by
        intro refusal reports
        have read' := (Http.Response.reports_iff.mp reports).2
        cases read.symm.trans read'
      rw [read] at h
      cases legible : response.text with
      | ok text =>
          rw [legible] at h
          obtain rfl := Except.ok.inj h
          exact tells_unreported step unreported legible
      | error foreign =>
          rw [legible] at h
          cases h

/-- A response that is no grant is a failure that tells what it says, or it is illegible. -/
theorem grantOf_of_ungranted (step : GrantStep) (ungranted : ∀ grant, ¬ response.Grants grant) :
    (∃ cause, response.illegible? = none ∧ response.Tells cause ∧
        grantOf step response = .error (.failure (.token cause))) ∨
      ∃ cause, response.illegible? = some cause ∧
        grantOf step response = .error (.foreign cause) := by
  by_cases fine : response.status = 200
  · cases read : Grant.ofBody response.body with
    | ok grant =>
        exact absurd (Http.Response.grants_iff.mpr ⟨fine, read⟩) (ungranted grant)
    | error issues =>
        refine .inl ⟨_, if_pos fine, tells_invalid step fine issues, ?_⟩
        rw [grantOf, if_pos fine, read]
  · have refused : grantOf step response = .error (refuse step response) := if_neg fine
    rcases refuse_cases step fine with ⟨cause, legible, named, told⟩ | ⟨cause, illegible, told⟩
    · exact .inl ⟨cause, legible, tells_of_refusalOf step fine named,
        refused.trans (congrArg _ told)⟩
    · exact .inr ⟨cause, illegible, refused.trans (congrArg _ told)⟩

end Provider

namespace Enquiry

/-- A request that exchanges a code. -/
def isCodeGrant (entry : Enquiry) : Bool :=
  Event.isCodeGrant (.request entry.request)

variable {entry : Enquiry}

theorem grants_of_grant? {grant : Grant} (granted : entry.grant? = some grant) :
    ∃ response, entry.answer = .ok (.ok response) ∧ response.Grants grant := by
  obtain ⟨response, answer, fine, read⟩ := grant?_eq_some_iff.mp granted
  exact ⟨response, answer, Http.Response.grants_iff.mpr ⟨fine, read⟩⟩

variable {response : Http.Response} {step : GrantStep} {endpoint : String} {clock : Binary64}

theorem credential_of_grants {grant : Grant} (answer : entry.answer = .ok (.ok response))
    (grants : response.Grants grant) :
    entry.credential step endpoint clock = Credential.ofGrant grant clock := by
  apply credential_of_ok
  rw [answer]
  exact Provider.grantOf_of_grants step grants

theorem credential_of_ungranted (answer : entry.answer = .ok (.ok response))
    (ungranted : ∀ grant, ¬ response.Grants grant) :
    (∃ cause, response.illegible? = none ∧ response.Tells cause ∧
        entry.credential step endpoint clock = .error (.failure (.token cause))) ∨
      ∃ cause, response.illegible? = some cause ∧
        entry.credential step endpoint clock = .error (.foreign cause) := by
  have concluded :
      Provider.conclude step endpoint entry.answer = Provider.grantOf step response := by
    rw [answer]
    rfl
  rcases Provider.grantOf_of_ungranted step ungranted with
    ⟨cause, legible, tells, refused⟩ | ⟨cause, illegible, refused⟩
  · exact .inl ⟨cause, legible, tells, credential_of_error (concluded.trans refused)⟩
  · exact .inr ⟨cause, illegible, credential_of_error (concluded.trans refused)⟩

end Enquiry

/-! ## The last request of a call -/

namespace CodeProvider

variable {provider : CodeProvider} {login : Login} {entries : List Enquiry} {entry : Enquiry}

theorem isCodeGrant_of_renew (asks : login.world.Asks (provider.renew login).2.world entries) :
    ∀ entry ∈ entries, entry.isCodeGrant = false := by
  obtain ⟨events, renews, adds⟩ := provider.renew_adds login
  intro entry found
  obtain ⟨event, here, request⟩ := asks.request_mem adds.trace found
  obtain rfl := Event.eq_of_request? request
  exact (renews.aside _ here).isCodeGrant

theorem logIn_of_enquiry (asks : login.world.Asks (provider.logIn login).2.world entries)
    (found : entry ∈ entries) :
    entries = [entry] ∧ ∃ clock,
      (provider.logIn login).1 = entry.credential .exchange provider.tokenEndpoint clock := by
  obtain ⟨entries', ledger, ends⟩ := provider.logIn_ledger login
  obtain rfl : entries' = entries := ledger.asks.asked_eq.symm.trans asks.asked_eq
  generalize (provider.logIn login).1 = result at ends
  cases ends with
  | codeless codeless => cases found
  | exchanged last clock =>
      obtain rfl := List.mem_singleton.mp found
      exact ⟨rfl, clock, rfl⟩

/-- A flow that exchanges a code does so last, and comes to what the answer comes to. -/
theorem flow_of_codeGrant (asks : login.world.Asks (provider.flow login).2.world entries)
    (found : entry ∈ entries) (posts : entry.isCodeGrant = true) :
    ∃ earlier clock, entries = earlier ++ [entry] ∧
      (∀ one ∈ earlier, one.isCodeGrant = false) ∧
      (provider.flow login).1 = entry.credential .exchange provider.tokenEndpoint clock := by
  obtain ⟨-, tries, -, -, -, tried, -⟩ := provider.renew_deeds login
  have apart := isCodeGrant_of_renew tried
  -- a flow that ends with its renewal exchanges no code
  have ended {after : Login} (tried : login.world.Asks after.world tries)
      (asks : login.world.Asks after.world entries) : False := by
    obtain rfl : tries = entries := tried.asked_eq.symm.trans asks.asked_eq
    rw [apart entry found] at posts
    cases posts
  unfold flow at asks ⊢
  rcases renewed : provider.renew login with ⟨fault | none | credential, after⟩
  · rw [renewed] at tried
    rw [Act.bind_of_error renewed] at asks
    exact (ended tried asks).elim
  · rw [renewed] at tried
    rw [Act.bind_of_ok renewed] at asks ⊢
    obtain ⟨later, ledger, -⟩ := provider.logIn_ledger after
    obtain rfl : entries = tries ++ later :=
      asks.asked_eq.symm.trans (tried.trans ledger.asks).asked_eq
    have here : entry ∈ later := by
      refine (List.mem_append.mp found).resolve_left fun early => ?_
      rw [apart entry early] at posts
      cases posts
    obtain ⟨rfl, clock, result⟩ := logIn_of_enquiry ledger.asks here
    exact ⟨tries, clock, rfl, apart, result⟩
  · rw [renewed] at tried
    rw [Act.bind_of_ok renewed] at asks
    exact (ended tried asks).elim

/-- The call comes to what its exchange comes to. -/
theorem getToken_of_codeGrant
    (found : entry ∈ login.world.asked (provider.getToken login).2.world)
    (posts : entry.isCodeGrant = true) :
    entry.request.url = provider.tokenEndpoint ∧
      ∃ earlier clock,
        login.world.Asks (provider.getToken login).2.world (earlier ++ [entry]) ∧
        (∀ one ∈ earlier, one.isCodeGrant = false) ∧
        (provider.getToken login).1 =
          ((entry.credential .exchange provider.tokenEndpoint clock).map
            fun credential => credential.value) := by
  obtain ⟨entries, ledger, -⟩ := provider.getToken_ledger login
  rw [ledger.asks.asked_eq] at found
  constructor
  · obtain ⟨events, calls, trace⟩ := provider.getToken_calls login
    obtain ⟨event, here, request⟩ := ledger.asks.request_mem trace found
    obtain rfl := Event.eq_of_request? request
    obtain ⟨before, later, split⟩ := List.append_of_mem here
    obtain ⟨-, -, code, -, -, -, same⟩ := calls.of_codeGrant split posts
    rw [same]
    rfl
  · have asks := ledger.asks
    cases look : login.credentials.usable? login.world.clock buffer with
    | some value =>
        rw [getToken_of_usable look] at asks
        rw [← asks.asked_eq, (World.Asks.refl login.world).asked_eq] at found
        cases found
    | none =>
        obtain ⟨result, world, -⟩ := @getToken_of_flow provider login look
        rw [world] at asks
        obtain ⟨earlier, clock, rfl, apart, flown⟩ :=
          @flow_of_codeGrant provider (login.setLocked true) entries entry asks found posts
        refine ⟨earlier, clock, ledger.asks, apart, ?_⟩
        rw [result, flown]

/-- A token that is kept changes with a grant only, which is the last answer of the call. -/
theorem granted_of_token_ne
    (changed : (provider.getToken login).2.credentials.token ≠ login.credentials.token) :
    ∃ earlier last response grant credential,
      login.world.asked (provider.getToken login).2.world = earlier ++ [last] ∧
      last.answer = .ok (.ok response) ∧ response.Grants grant ∧
      (provider.getToken login).2.credentials.token = some credential ∧
      credential.value = grant.bearer := by
  cases look : login.credentials.usable? login.world.clock buffer with
  | some value =>
      rw [getToken_of_usable look] at changed
      exact absurd rfl changed
  | none =>
      obtain ⟨result, world, -⟩ := @getToken_of_flow provider login look
      obtain ⟨entries, ledger, ends⟩ := provider.flow_ledger (login.setLocked true)
      cases flown : (provider.flow (login.setLocked true)).1 with
      | error fault =>
          rw [flown] at result
          exact absurd (@Provider.token_of_error (.code provider) login fault result) changed
      | ok credential =>
          rw [flown] at result
          obtain ⟨stored, token, value⟩ :=
            @Provider.token_of_ok (.code provider) login credential.value look result
          obtain ⟨earlier, last, grant, rfl, granted, bearer⟩ := ends.granted flown
          obtain ⟨response, answer, grants⟩ := Enquiry.grants_of_grant? granted
          refine ⟨earlier, last, response, grant, stored, ?_, answer, grants, token,
            value.trans bearer⟩
          rw [world]
          exact ledger.asks.asked_eq

/-- A code is exchanged with the last request of a call, and the call comes to a token only if
the answer is a grant: the token of the grant, unless its lifetime is beyond all doubles.  Any
other response and any transport failure is told as a token failure: without a status and
without an error when nobody was reached, and otherwise with what the response says.  A refusal
that says what no codec can read is not told but passed on as the codec's own fault.  What
stops the request is passed on too, and has to do with the address or with a response on the
way.
Whatever a call asks, the kept token changes only when the last answer is a grant. -/
theorem exchange_told_by_answer (provider : CodeProvider) (login : Login) :
    (∀ entry ∈ login.world.asked (provider.getToken login).2.world, entry.isCodeGrant = true →
      entry.request.url = provider.tokenEndpoint ∧
      (∃ earlier, login.world.asked (provider.getToken login).2.world = earlier ++ [entry] ∧
        ∀ one ∈ earlier, one.isCodeGrant = false) ∧
      (∀ value, (provider.getToken login).1 = .ok value →
        ∃ response grant, entry.answer = .ok (.ok response) ∧ response.Grants grant ∧
          value = grant.bearer) ∧
      (∀ response grant, entry.answer = .ok (.ok response) → response.Grants grant →
        (provider.getToken login).1 = .ok grant.bearer ∨
          (provider.getToken login).1 = .error .overflow ∧
            Binary64.ofInt? grant.lifetime = none) ∧
      (∀ detail, entry.answer = .ok (.error detail) →
        ∃ cause, (provider.getToken login).1 = .error (.failure (.token cause)) ∧
          cause.status? = none ∧ cause.error? = none) ∧
      (∀ response, entry.answer = .ok (.ok response) → (∀ grant, ¬ response.Grants grant) →
        response.illegible? = none →
        ∃ cause, (provider.getToken login).1 = .error (.failure (.token cause)) ∧
          response.Tells cause) ∧
      (∀ response cause, entry.answer = .ok (.ok response) → response.illegible? = some cause →
        (provider.getToken login).1 = .error (.foreign cause)) ∧
      ∀ fault, entry.answer = .error fault →
        (provider.getToken login).1 = .error fault ∧
          World.Stopped login.world.replies provider.tokenEndpoint fault) ∧
    ((provider.getToken login).2.credentials.token ≠ login.credentials.token →
      ∃ earlier last response grant credential,
        login.world.asked (provider.getToken login).2.world = earlier ++ [last] ∧
        last.answer = .ok (.ok response) ∧ response.Grants grant ∧
        (provider.getToken login).2.credentials.token = some credential ∧
        credential.value = grant.bearer) := by
  refine ⟨fun entry found posts => ?_, granted_of_token_ne⟩
  obtain ⟨url, earlier, clock, asks, apart, result⟩ := getToken_of_codeGrant found posts
  refine ⟨url, ⟨earlier, asks.asked_eq, apart⟩, ?given, ?granted, ?unreachable, ?refused,
    ?illegible, ?stopped⟩
  case given =>
    intro value came
    cases credited : entry.credential .exchange provider.tokenEndpoint clock with
    | error fault =>
        rw [credited, came] at result
        cases result
    | ok credential =>
        rw [credited, came] at result
        obtain ⟨grant, granted, bearer⟩ := Enquiry.granted_of_credential credited
        obtain ⟨response, answer, grants⟩ := Enquiry.grants_of_grant? granted
        exact ⟨response, grant, answer, grants, (Except.ok.inj result).trans bearer⟩
  case granted =>
    intro response grant answer grants
    rw [result, Enquiry.credential_of_grants answer grants]
    cases received : Credential.ofGrant grant clock with
    | ok credential => exact .inl (congrArg _ (Credential.value_of_ofGrant received))
    | error fault =>
        obtain ⟨rfl, endless⟩ := Credential.ofGrant_eq_error received
        exact .inr ⟨rfl, endless⟩
  case unreachable =>
    intro detail answer
    refine ⟨.unreachable .exchange provider.tokenEndpoint detail, ?_, rfl, rfl⟩
    rw [result, Enquiry.credential, answer]
    rfl
  case refused =>
    intro response answer ungranted legible
    rcases Enquiry.credential_of_ungranted answer ungranted with
      ⟨cause, -, tells, refused⟩ | ⟨cause, illegible, -⟩
    · refine ⟨cause, ?_, tells⟩
      rw [result, refused]
      rfl
    · cases legible.symm.trans illegible
  case illegible =>
    intro response cause answer illegible
    have ungranted : ∀ grant, ¬ response.Grants grant := fun grant grants =>
      (Http.Response.status_of_illegible illegible).1 grants.1
    rcases Enquiry.credential_of_ungranted answer ungranted with
      ⟨cause', legible, -⟩ | ⟨cause', illegible', refused⟩
    · cases legible.symm.trans illegible
    · obtain rfl := Option.some.inj (illegible.symm.trans illegible')
      rw [result, refused]
      rfl
  case stopped =>
    intro fault answer
    constructor
    · rw [result, Enquiry.credential, answer]
      rfl
    · rw [← url]
      exact asks.stopped (List.mem_append_right _ (List.mem_singleton_self entry)) answer

/-- A first call whose code the token endpoint answers like this. -/
def answeredCall (response : Http.Response) : Login :=
  { firstCall with world := { firstCall.world with replies := [.response response] } }

/-- A refusal that its body alone would make a grant too. -/
def expiredCode : Http.Response :=
  ⟨400, [], Text.Utf8.encode
    "\x7b\"error\": \"invalid_grant\", \"access_token\": \"t\"\x7d".toList, none⟩

theorem exchange_told_by_answer_expired :
    ∃ cause, (client.getToken (answeredCall expiredCode)).1 = .error (.failure (.token cause)) ∧
      cause.status? = some 400 ∧ cause.error? = some "invalid_grant" := by
  have asked : ((answeredCall expiredCode).world.asked
      (client.getToken (answeredCall expiredCode)).2.world).map (fun entry =>
        (entry.isCodeGrant, (entry.answer.toOption.bind Except.toOption).map fun response =>
          (response.status, response.body))) = [(true, some (400, expiredCode.body))] := by
    decide +kernel
  obtain ⟨entry, entries, told⟩ := List.map_eq_singleton_iff.mp asked
  obtain ⟨posts, given⟩ := Prod.mk.inj told
  have found : entry ∈ (answeredCall expiredCode).world.asked
      (client.getToken (answeredCall expiredCode)).2.world := by
    rw [entries]
    exact List.mem_singleton_self entry
  obtain ⟨response, answer, status, body⟩ :
      ∃ response, entry.answer = .ok (.ok response) ∧ response.status = 400 ∧
        response.body = expiredCode.body := by
    rcases reply : entry.answer with fault | detail | response <;> rw [reply] at given
    · cases given
    · cases given
    · exact ⟨response, rfl, Prod.mk.inj (Option.some.inj given)⟩
  have refused : response.status ≠ 200 := by
    rw [status]
    decide
  have reported : (Refusal.ofBody expiredCode.body).toOption.map (·.error) =
      some "invalid_grant" := by
    decide +kernel
  obtain ⟨refusal, read, error⟩ := Option.map_eq_some_iff.mp reported
  have reports : response.Reports refusal := by
    refine Http.Response.reports_iff.mpr ⟨refused, ?_⟩
    rw [body]
    cases had : Refusal.ofBody expiredCode.body with
    | ok refusal' =>
        rw [had] at read
        rw [show refusal' = refusal from Option.some.inj read]
    | error issues =>
        rw [had] at read
        cases read
  have legible : response.illegible? = none := by
    rw [Option.eq_none_iff_forall_ne_some]
    intro cause illegible
    exact (Http.Response.illegible_iff.mp illegible).2.1 refusal reports
  obtain ⟨-, -, -, -, -, failed, -⟩ :=
    (exchange_told_by_answer client (answeredCall expiredCode)).1 entry found posts
  obtain ⟨cause, failed, tells⟩ :=
    failed response answer (fun grant grants => absurd grants.1 refused) legible
  exact ⟨cause, failed, tells.status.trans (congrArg some status),
    (tells.error _).mpr ⟨refusal, reports, error⟩⟩

/-- A redirect to a host that is spelled like an international one. -/
def misleading : Http.Response :=
  ⟨307, [("Location", "https://xn--.example/")], [], none⟩

/-- The address of the exchange is fine, and what becomes of the redirect is neither a token
nor a token failure. -/
theorem redirect_escapes_exchange :
    ¬ ∀ (provider : CodeProvider) (login : Login),
      ∀ entry ∈ login.world.asked (provider.getToken login).2.world, entry.isCodeGrant = true →
        Url.IsRequestable provider.tokenEndpoint →
        (∃ value, (provider.getToken login).1 = .ok value) ∨
          ∃ cause, (provider.getToken login).1 = .error (.failure (.token cause)) := by
  intro claimed
  have escaped : ((answeredCall misleading).world.asked
        (client.getToken (answeredCall misleading)).2.world).any Enquiry.isCodeGrant = true ∧
      (client.getToken (answeredCall misleading)).1 = .error (.hostName .form) := by
    decide +kernel
  have requestable : Url.IsRequestable client.tokenEndpoint := by decide +kernel
  obtain ⟨entry, found, posts⟩ := List.any_eq_true.mp escaped.1
  rcases claimed client (answeredCall misleading) entry found posts requestable with
    ⟨value, came⟩ | ⟨cause, came⟩
  · cases escaped.2.symm.trans came
  · cases escaped.2.symm.trans came

end CodeProvider

end TokenFlow
