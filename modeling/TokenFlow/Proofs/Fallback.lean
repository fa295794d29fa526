/-
# TokenFlow.Proofs.Fallback -- a refused renewal is as good as none

A renewal that is refused costs its refresh token and a line of the log, and leaves nothing
else behind (`renew_of_declined`).  So the call goes on as if there had been no refresh
token, in the world that the request has left: the two calls are equal, with everything
that they do and come to.  Neither of them tries again.

The one exception is a refusal whose text no codec can read (`Illegible`): there is no login
after it, the call raises what the codec raised, and the refresh token stays.
-/
import TokenFlow.Proofs.LoginBinding
import TokenFlow.Proofs.TokenEnquiry

namespace TokenFlow

set_option autoImplicit false

open TokenFlow.Document TokenFlow.Number TokenFlow.Callback

/-! ## Renewals on the trace -/

/-- A request that presents a refresh token. -/
def Event.isRenewal (event : Event) : Bool :=
  event.request?.any Http.Request.isRenewal

theorem Event.IsRedirect.isRenewal {event : Event} (redirect : event.IsRedirect) :
    event.isRenewal = false := by
  rw [Event.isRenewal, redirect.request?]
  rfl

namespace CodeProvider

variable {provider : CodeProvider} {prospects : Prospects}
  {events : List Event}

/-- A login renews nothing, and opens one page at most. -/
theorem LogsIn.once {result : Except Fault Credential}
    (logsIn : provider.LogsIn prospects events result) :
    (∀ event ∈ events, event.isRenewal = false) ∧ (events.filterMap Event.page?).length ≤ 1 := by
  have visited (exchanges : List (List UInt8 × Answer)) :
      ∀ event ∈ provider.visitEvents prospects exchanges, event.isRenewal = false := by
    intro event found
    rw [Event.isRenewal, provider.request?_visitEvents prospects exchanges event found]
    rfl
  cases logsIn with
  | unopened fault => exact ⟨List.forall_mem_nil _, Nat.zero_le 1⟩
  | refused exchanges fault ending =>
      refine ⟨visited exchanges, ?_⟩
      rw [filterMap_page?_visitEvents]
      exact Nat.le_refl 1
  | exchanged exchanges code redirects result ending only =>
      constructor
      · intro event found
        rcases List.mem_append.mp found with early | found
        · exact visited exchanges event early
        · rcases List.mem_append.mp found with requested | redirected
          · -- the grant type of an exchange is another one
            simp only [Provider.tokenEvents, List.mem_cons, List.not_mem_nil, or_false]
              at requested
            rcases requested with rfl | rfl <;> rfl
          · exact (only event redirected).isRenewal
      · have aside : ∀ event ∈ redirects, Event.Aside event :=
          fun event found => (only event found).aside
        rw [List.filterMap_append, filterMap_page?_visitEvents, List.filterMap_append,
          Event.Aside.filterMap_page? aside]
        exact Nat.le_refl 1

/-- Without a refresh token a call renews nothing. -/
theorem Calls.once {result : Except Fault String}
    (calls : provider.Calls none prospects events result) :
    (∀ event ∈ events, event.isRenewal = false) ∧ (events.filterMap Event.page?).length ≤ 1 := by
  cases calls with
  | kept value => exact ⟨List.forall_mem_nil _, Nat.zero_le 1⟩
  | renewed events result renews =>
      obtain rfl : events = [] := renews
      exact ⟨List.forall_mem_nil _, Nat.zero_le 1⟩
  | loggedIn tried events result renews logsIn =>
      obtain rfl : tried = [] := renews
      exact logsIn.once

/-! ## A refused renewal -/

/-- An answer that is no grant: nobody was reached, or the status is not 200, or the body is
not what it should be. -/
def Declines : Except String Http.Response → Prop
  | .error _ => True
  | .ok response => response.status ≠ 200 ∨ ∃ issues, Grant.ofBody response.body = .error issues

/-- A refusal whose text cannot be read, for this reason. -/
def Illegible (reply : Except String Http.Response) (cause : Foreign) : Prop :=
  ∃ response, reply = .ok response ∧ response.illegible? = some cause

/-- An answer that is no grant is a token failure, or it is illegible. -/
theorem conclude_of_declines {entry : Enquiry} {reply : Except String Http.Response}
    (answer : entry.answer = .ok reply) (declines : Declines reply) (step : GrantStep)
    (endpoint : String) :
    (∃ cause, Illegible reply cause ∧
        Provider.conclude step endpoint entry.answer = .error (.foreign cause)) ∨
      ∃ cause, Provider.conclude step endpoint entry.answer =
        .error (.failure (.token cause)) := by
  have ungranted : entry.grant? = none := by
    unfold Enquiry.grant?
    rw [answer]
    rcases reply with detail | response
    · rfl
    · rcases declines with refused | ⟨issues, malformed⟩
      · exact if_neg refused
      · simp [malformed, Except.toOption]
  rcases entry.conclude_cases step endpoint with
    ⟨grant, granted, -⟩ | ⟨fault, stopped, -, concluded⟩ | ⟨cause, -, -, concluded⟩
  · rw [ungranted] at granted
    cases granted
  · rcases Enquiry.fault?_cases stopped with raised | ⟨response, cause, given, illegible, rfl⟩
    · rw [answer] at raised
      cases raised
    · rw [answer] at given
      exact .inl ⟨cause, ⟨response, Except.ok.inj given, illegible⟩, concluded⟩
  · exact .inr ⟨cause, concluded⟩

/-- The line that a refused renewal leaves in the log. -/
def fallbackText (failure : Failure) : String :=
  "Refresh token failed, falling back to browser flow: " ++ failure.message

variable {login : Login} {token : String} {reply : Except String Http.Response} {rest : World}

/-- Renewal comes to nothing, and the refresh token is gone; or it ends the call, and
everything stays. -/
theorem renew_of_declined (kept : nonempty? login.credentials.refreshToken = some token)
    (asked : Provider.submit provider.tokenEndpoint (provider.refreshForm token) login.world =
      (.ok reply, rest))
    (declines : Declines reply) :
    (∃ cause, Illegible reply cause ∧
        provider.renew login = (.error (.foreign cause), { login with world := rest })) ∨
      ∃ failure, provider.renew login =
        (.ok none, login.renewed none (rest.note .debug .provider (fallbackText failure))) := by
  let entry := Provider.tokenEnquiry provider.tokenEndpoint (provider.refreshForm token)
    login.world
  have answer : entry.answer = .ok reply := congrArg Prod.fst asked
  have requested := inWorld_requestGrant .refresh provider.tokenEndpoint
    (provider.refreshForm token) login
  have tries : provider.renew login = provider.refresh token login := by
    rw [renew, Act.bind_of_ok (Act.get_apply login), kept]
  rw [tries, refresh]
  rcases conclude_of_declines answer declines .refresh provider.tokenEndpoint with
    ⟨cause, illegible, concluded⟩ | ⟨cause, concluded⟩
  · rw [concluded, asked] at requested
    have fatal : ∀ failure, Fault.foreign cause ≠ .failure failure := by
      intro failure same
      cases same
    exact .inl ⟨cause, illegible, Act.bind_of_error (Act.attempt_of_fault requested fatal)⟩
  · rw [concluded, asked] at requested
    refine .inr ⟨.token cause, ?_⟩
    rw [Act.bind_of_ok (Act.attempt_of_failure requested)]
    rfl

theorem renew_of_none (h : login.credentials.refreshToken = none) :
    provider.renew login = (.ok none, login) := by
  rw [renew, Act.bind_of_ok (Act.get_apply login), h]
  rfl

/-- What a call that finds no token comes to is decided behind its renewal. -/
theorem getToken_congr_renew {other : Login}
    (look : login.credentials.usable? login.world.clock buffer = none)
    (look' : other.credentials.usable? other.world.clock buffer = none)
    (same : provider.renew (login.setLocked true) = provider.renew (other.setLocked true)) :
    provider.getToken login = provider.getToken other := by
  have acquired : provider.acquire (login.setLocked true) =
      provider.acquire (other.setLocked true) := by
    unfold acquire
    exact Act.bind_congr same
  rw [getToken_of_none look, getToken_of_none look', acquired]

/-- The request of a renewal renews once, and opens no page. -/
theorem submit_once (login : Login) (token : String) :
    ∃ events, (Provider.submit provider.tokenEndpoint (provider.refreshForm token)
          login.world).2.trace = login.world.trace ++ events ∧
      events.countP Event.isRenewal = 1 ∧ events.filterMap Event.page? = [] := by
  obtain ⟨replies, redirects, only, after⟩ := Provider.submit_frame provider.tokenEndpoint
    (provider.refreshForm token) login.world
  have none : redirects.countP Event.isRenewal = 0 := by
    rw [List.countP_eq_zero]
    intro event found
    rw [(only event found).isRenewal]
    exact Bool.false_ne_true
  have aside : ∀ event ∈ redirects, Event.Aside event :=
    fun event found => (only event found).aside
  refine ⟨_, congrArg World.trace after, ?_, ?_⟩
  · rw [List.countP_append, none]
    rfl
  · rw [List.filterMap_append, Event.Aside.filterMap_page? aside]
    rfl

/-- A call whose renewal is declined is the call without a refresh token, in the world that
the request for renewal has left: it comes to the same, keeps the same and does the same
behind that request.  So it renews once, and opens one page at most.  Only a refusal that
is illegible ends the call, which keeps everything and does nothing more. -/
theorem renewal_falls_back (provider : CodeProvider) (login : Login) (token : String)
    (reply : Except String Http.Response) (rest : World)
    (ended : ∀ credential, login.credentials.token = some credential →
      credential.isExpired login.world.clock buffer = true)
    (kept : login.credentials.refreshToken = some token) (full : token ≠ "")
    (asked : Provider.submit provider.tokenEndpoint (provider.refreshForm token) login.world =
      (.ok reply, rest))
    (declines : Declines reply) :
    (∃ cause, Illegible reply cause ∧
      provider.getToken login =
        (.error (.foreign cause), ⟨{ login.credentials with locked := false }, rest⟩)) ∨
    ∃ failure before later,
      provider.getToken login =
        provider.getToken
          ⟨{ login.credentials with refreshToken := none },
            rest.note .debug .provider (fallbackText failure)⟩ ∧
      rest.trace = login.world.trace ++ before ∧
      (provider.getToken login).2.world.trace = rest.trace ++ later ∧
      (before ++ later).countP Event.isRenewal = 1 ∧
      ((before ++ later).filterMap Event.page?).length ≤ 1 := by
  have here : nonempty? (login.setLocked true).credentials.refreshToken = some token :=
    nonempty?_eq_some_iff.mpr ⟨kept, full⟩
  have sent : Provider.submit provider.tokenEndpoint (provider.refreshForm token)
      (login.setLocked true).world = (.ok reply, rest) := asked
  have look := Credentials.usable?_eq_none_iff.mpr ended
  rcases renew_of_declined here sent declines with
    ⟨cause, illegible, stopped⟩ | ⟨failure, renewed⟩
  · refine .inl ⟨cause, illegible, ?_⟩
    rw [getToken_of_none look, acquire, Act.bind_of_error stopped]
    rfl
  · right
    let fresh : Login := ⟨{ login.credentials with refreshToken := none },
      rest.note .debug .provider (fallbackText failure)⟩
    have untried : provider.renew (fresh.setLocked true) = (.ok none, fresh.setLocked true) :=
      renew_of_none rfl
    have look' : fresh.credentials.usable? fresh.world.clock buffer = none := by
      have clock := Provider.clock_submit provider.tokenEndpoint (provider.refreshForm token)
        login.world
      rw [asked] at clock
      show login.credentials.usable? rest.clock buffer = none
      rw [clock]
      exact look
    have same : provider.getToken login = provider.getToken fresh :=
      getToken_congr_renew look look' (renewed.trans untried.symm)
    obtain ⟨before, sent, tried, unopened⟩ := @submit_once provider login token
    rw [asked] at sent
    obtain ⟨later, calls, trace⟩ := provider.getToken_calls fresh
    obtain ⟨unrenewed, once⟩ := calls.once
    refine ⟨failure, before, later, same, sent, ?_, ?_, ?_⟩
    · rw [same]
      exact trace
    · have none : later.countP Event.isRenewal = 0 := by
        rw [List.countP_eq_zero]
        intro event found
        rw [unrenewed event found]
        exact Bool.false_ne_true
      rw [List.countP_append, tried, none]
    · rw [List.filterMap_append, unopened]
      exact once

/-- The first call of a client once more, with a token that has ended and a refresh token
that the issuer refuses. -/
def refusedCall (refusal : Http.Response) : Login where
  credentials := ⟨some ⟨"t", some (.real (.exactly 10))⟩, some "r", false⟩
  world := { firstCall.world with replies := .response refusal :: firstCall.world.replies }

theorem isExpired_refusedCall (refusal : Http.Response) :
    ∀ credential, (refusedCall refusal).credentials.token = some credential →
      credential.isExpired (refusedCall refusal).world.clock buffer = true := by
  intro credential kept
  obtain rfl := Option.some.inj kept
  have ended : (⟨"t", some (.real (.exactly 10))⟩ : Credential).isExpired (.exactly 0) buffer =
      true := by decide +kernel
  exact ended

/-- The issuer does not say why. -/
def staleCall : Login :=
  refusedCall ⟨400, [], [], none⟩

/-- It goes on as the first call, and logs in. -/
theorem staleCall_falls_back :
    ∃ (failure : Failure) (rest : World), rest.replies = firstCall.world.replies ∧
      client.getToken staleCall =
        client.getToken
          ⟨{ staleCall.credentials with refreshToken := none },
            rest.note .debug .provider (fallbackText failure)⟩ := by
  let sent := Provider.submit client.tokenEndpoint (client.refreshForm "r") staleCall.world
  have answer : sent.1 = .ok (.ok ⟨400, [], [], none⟩) ∧
      sent.2.replies = firstCall.world.replies := ⟨by rfl, by rfl⟩
  have legible : Http.Response.illegible? ⟨400, [], [], none⟩ = none := by decide +kernel
  rcases renewal_falls_back client staleCall "r" (.ok ⟨400, [], [], none⟩) sent.2
    (isExpired_refusedCall _) rfl (by decide) (Prod.ext answer.1 rfl) (.inl (by decide)) with
    ⟨cause, ⟨response, same, illegible⟩, -⟩ | ⟨failure, -, -, same, -⟩
  · rw [← Except.ok.inj same, legible] at illegible
    cases illegible
  · exact ⟨failure, sent.2, answer.2, same⟩

/-- A refusal in an encoding that no text is in. -/
def wordless : Http.Response where
  status := 401
  headers := [("Content-Type", "text/plain; charset=undefined")]
  body := Text.Utf8.encode "unauthorized".toList
  codec := some fun _ => .error ⟨"UnicodeError", "undefined encoding", false⟩

/-- Without its refresh token the call would log in. -/
theorem illegible_refusal_escapes :
    ¬ ∀ (provider : CodeProvider) (login : Login) (token : String)
        (reply : Except String Http.Response) (rest : World),
      (∀ credential, login.credentials.token = some credential →
        credential.isExpired login.world.clock buffer = true) →
      login.credentials.refreshToken = some token → token ≠ "" →
      Provider.submit provider.tokenEndpoint (provider.refreshForm token) login.world =
        (.ok reply, rest) →
      Declines reply →
      (provider.getToken login).1 =
        (provider.getToken ⟨{ login.credentials with refreshToken := none }, rest⟩).1 := by
  intro claimed
  let sent := Provider.submit client.tokenEndpoint (client.refreshForm "r")
    (refusedCall wordless).world
  have answer : sent.1 = .ok (.ok wordless) := by rfl
  have same := claimed client (refusedCall wordless) "r" (.ok wordless) sent.2
    (isExpired_refusedCall wordless) rfl (by decide) (Prod.ext answer rfl) (.inl (by decide))
  have escaped : (client.getToken (refusedCall wordless)).1.toOption = none ∧
      (client.getToken ⟨{ (refusedCall wordless).credentials with refreshToken := none },
        sent.2⟩).1.toOption = some "t" := by decide +kernel
  rw [same, escaped.2] at escaped
  cases escaped.1

end CodeProvider

end TokenFlow
