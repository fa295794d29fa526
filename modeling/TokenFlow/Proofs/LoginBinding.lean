/-
# TokenFlow.Proofs.LoginBinding -- a code is exchanged only by the login that asked for it

Anybody can send requests to a listener, before and after the issuer does.  A call that
posts a code has opened one page, with a state and the challenge of a verifier that it
drew; the code is from the first redirect that came, which had this state, and it is
posted with this verifier.  A first redirect that is refused ends the login, whatever
comes after it.

Both are read off the kinds of calls there are (`Calls.cases`): a request with a code
stands in one place of the trace only, behind everything that the browser did.
-/
import Mathlib.Data.List.Basic
import TokenFlow.Proofs.CodeCall
import TokenFlow.Proofs.DrawnKeys

namespace TokenFlow

set_option autoImplicit false

open TokenFlow.Callback

/-! ## Events that do not matter -/

namespace Event

/-- A request that exchanges a code. -/
def isCodeGrant : Event → Bool
  | .request sent =>
      sent.form.any fun form => form.lookup "grant_type" = some "authorization_code"
  | _ => false

/-- The page that a browser is sent to. -/
def page? : Event → Option String
  | .browser url => some url
  | _ => none

/-- An event that exchanges no code, and that no browser has a part in. -/
structure Aside (event : Event) : Prop where
  isCodeGrant : event.isCodeGrant = false
  page? : event.page? = none
  callback? : event.callback? = none

theorem IsRedirect.aside {event : Event} (redirect : event.IsRedirect) : event.Aside := by
  obtain ⟨method, url, rfl⟩ := redirect
  exact ⟨rfl, rfl, rfl⟩

theorem Aside.filterMap_page? {events : List Event} (aside : ∀ event ∈ events, Aside event) :
    events.filterMap Event.page? = [] :=
  List.filterMap_eq_nil_iff.mpr fun event found => (aside event found).page?

theorem Aside.filterMap_callback? {events : List Event} (aside : ∀ event ∈ events, Aside event) :
    events.filterMap Event.callback? = [] :=
  List.filterMap_eq_nil_iff.mpr fun event found => (aside event found).callback?

end Event

namespace CodeProvider

open World

variable {provider : CodeProvider} {refreshToken : Option String} {prospects : Prospects}
  {events : List Event} {result : Except Fault String}

theorem Renews.aside (renews : provider.Renews refreshToken events) :
    ∀ event ∈ events, Event.Aside event := by
  unfold Renews at renews
  split at renews
  · rw [renews]
    exact List.forall_mem_nil _
  · obtain ⟨redirects, only, rfl⟩ := renews
    intro event found
    rcases List.mem_append.mp found with requested | redirected
    · -- the grant type of a renewal comes first in its form, and is another one
      rcases List.mem_cons.mp requested with rfl | requested
      · exact ⟨rfl, rfl, rfl⟩
      · obtain rfl := List.mem_singleton.mp requested
        exact ⟨rfl, rfl, rfl⟩
    · exact (only event redirected).aside

theorem isCodeGrant_visitEvents (exchanges : List (List UInt8 × Answer)) :
    ∀ event ∈ provider.visitEvents prospects exchanges, event.isCodeGrant = false := by
  intro event found
  have silent := provider.request?_visitEvents prospects exchanges event found
  cases event with
  | request sent => cases silent
  | client | redirect | browser | listen | callback | close | sleep => rfl

theorem filterMap_page?_visitEvents (exchanges : List (List UInt8 × Answer)) :
    (provider.visitEvents prospects exchanges).filterMap Event.page? =
      [provider.loginUrl prospects] := by
  have none : (exchangeEvents exchanges).filterMap Event.page? = [] := by
    rw [exchangeEvents, List.filterMap_map]
    exact List.filterMap_eq_nil_iff.mpr fun _ _ => rfl
  have shown : (provider.visitEvents prospects exchanges).filterMap Event.page? =
      provider.loginUrl prospects :: (exchangeEvents exchanges).filterMap Event.page? ++ [] :=
    List.filterMap_append
  rw [shown, none]
  rfl

theorem filterMap_callback?_visitEvents (exchanges : List (List UInt8 × Answer)) :
    (provider.visitEvents prospects exchanges).filterMap Event.callback? = exchanges := by
  rw [visitEvents, List.filterMap_append, List.filterMap_cons_none rfl,
    List.filterMap_cons_none rfl, filterMap_exchangeEvents]
  exact List.append_nil _

variable {tried : List Event}

/-- No code is posted before its visit is over. -/
theorem isCodeGrant_visited (aside : ∀ event ∈ tried, Event.Aside event)
    (exchanges : List (List UInt8 × Answer)) :
    ∀ event ∈ tried ++ provider.visitEvents prospects exchanges, event.isCodeGrant = false := by
  intro event found
  rcases List.mem_append.mp found with early | visited
  · exact (aside event early).isCodeGrant
  · exact isCodeGrant_visitEvents exchanges event visited

/-- The events of a call up to the request that posts its code. -/
def preparation (provider : CodeProvider) (prospects : Prospects) (tried : List Event)
    (exchanges : List (List UInt8 × Answer)) : List Event :=
  tried ++ provider.visitEvents prospects exchanges ++ [.client (.create none true)]

theorem isCodeGrant_preparation (aside : ∀ event ∈ tried, Event.Aside event)
    (exchanges : List (List UInt8 × Answer)) :
    ∀ event ∈ provider.preparation prospects tried exchanges, event.isCodeGrant = false := by
  intro event found
  rcases List.mem_append.mp found with visited | client
  · exact isCodeGrant_visited aside exchanges event visited
  · rw [List.mem_singleton.mp client]
    rfl

theorem filterMap_page?_preparation (aside : ∀ event ∈ tried, Event.Aside event)
    (exchanges : List (List UInt8 × Answer)) :
    (provider.preparation prospects tried exchanges).filterMap Event.page? =
      [provider.loginUrl prospects] := by
  rw [preparation, List.filterMap_append, List.filterMap_append,
    Event.Aside.filterMap_page? aside, filterMap_page?_visitEvents]
  rfl

theorem filterMap_callback?_preparation (aside : ∀ event ∈ tried, Event.Aside event)
    (exchanges : List (List UInt8 × Answer)) :
    (provider.preparation prospects tried exchanges).filterMap Event.callback? = exchanges := by
  rw [preparation, List.filterMap_append, List.filterMap_append,
    Event.Aside.filterMap_callback? aside, filterMap_callback?_visitEvents]
  exact List.append_nil _

/-! ## Kinds of calls -/

/-- A call does nothing that matters here; or it visits a page and gets no code; or it
gets a code and posts it. -/
theorem Calls.cases (calls : provider.Calls refreshToken prospects events result) :
    (∀ event ∈ events, Event.Aside event) ∨
      (∃ tried exchanges fault, (∀ event ∈ tried, Event.Aside event) ∧
        provider.Ends prospects (exchanges.map Prod.fst) (.error fault) ∧
        events = tried ++ provider.visitEvents prospects exchanges ∧ result = .error fault) ∨
      ∃ tried exchanges code redirects, (∀ event ∈ tried, Event.Aside event) ∧
        (∀ event ∈ redirects, Event.Aside event) ∧
        provider.Ends prospects (exchanges.map Prod.fst) (.ok code) ∧
        events = provider.preparation prospects tried exchanges
          ++ .request (.post provider.tokenEndpoint (provider.codeForm prospects code)
            Provider.tokenHeaders)
          :: redirects := by
  cases calls with
  | kept value => exact .inl (List.forall_mem_nil _)
  | renewed events result renews => exact .inl renews.aside
  | loggedIn tried events result renews logsIn =>
      cases logsIn with
      | unopened fault =>
          rw [List.append_nil]
          exact .inl renews.aside
      | refused exchanges fault ending =>
          exact .inr (.inl ⟨tried, exchanges, fault, renews.aside, ending, rfl, rfl⟩)
      | exchanged exchanges code redirects result ending only =>
          refine .inr (.inr ⟨tried, exchanges, code, redirects, renews.aside,
            fun event found => (only event found).aside, ending, ?_⟩)
          simp [Provider.tokenEvents, preparation]

/-- A code is posted in one place: behind the visit that got it. -/
theorem Calls.of_codeGrant (calls : provider.Calls refreshToken prospects events result)
    {before later : List Event} {request : Http.Request}
    (split : events = before ++ .request request :: later)
    (grant : Event.isCodeGrant (.request request) = true) :
    ∃ tried exchanges code, (∀ event ∈ tried, Event.Aside event) ∧
      provider.Ends prospects (exchanges.map Prod.fst) (.ok code) ∧
      before = provider.preparation prospects tried exchanges ∧
      request = .post provider.tokenEndpoint (provider.codeForm prospects code)
        Provider.tokenHeaders := by
  have here : .request request ∈ events := by
    rw [split]
    exact List.mem_append_right _ List.mem_cons_self
  -- it is not among events that post no code
  have apart {others : List Event} (none : ∀ event ∈ others, event.isCodeGrant = false) :
      .request request ∉ others := by
    intro found
    rw [none _ found] at grant
    cases grant
  rcases calls.cases with aside | ⟨tried, exchanges, fault, aside, -, rfl, -⟩ |
    ⟨tried, exchanges, code, redirects, aside, aside', ending, posted⟩
  · exact absurd here (apart fun event found => (aside event found).isCodeGrant)
  · exact absurd here (apart (isCodeGrant_visited aside exchanges))
  · have early : .request request ∉ provider.preparation prospects tried exchanges :=
      apart (isCodeGrant_preparation aside exchanges)
    have late : .request request ∉ redirects :=
      apart fun event found => (aside' event found).isCodeGrant
    obtain ⟨same, request', -⟩ :=
      (List.append_cons_inj_of_notMem early late).mp (posted.symm.trans split)
    exact ⟨tried, exchanges, code, aside, ending, same.symm, (Event.request.inj request').symm⟩

/-- A visit whose first redirect is refused posts no code, and the call fails. -/
theorem Calls.of_refused (calls : provider.Calls refreshToken prospects events result)
    {url : String} (visit : .browser url ∈ events) (opened : prospects.opening = .opened)
    {parameters : List (String × String)}
    (found : ((events.filterMap Event.callback?).map Prod.fst).findSome? Request.redirect? =
      some parameters)
    (refused : (Outcome.judge parameters (provider.stateFrom prospects.entropy)).code? = none) :
    (∀ event ∈ events, event.isCodeGrant = false) ∧
      (result =
          .error (.failure
            (Outcome.judge parameters (provider.stateFrom prospects.entropy)).exception) ∨
        result = .error .overflow ∧ provider.callbackTimeout.toBinary64? = none) := by
  rcases calls.cases with aside | ⟨tried, exchanges, fault, aside, ending, rfl, rfl⟩ |
    ⟨tried, exchanges, code, redirects, aside, aside', ending, rfl⟩
  · cases (aside _ visit).page?
  · rw [List.filterMap_append, Event.Aside.filterMap_callback? aside, List.nil_append,
      filterMap_callback?_visitEvents] at found
    refine ⟨isCodeGrant_visited aside exchanges, ?_⟩
    rcases ending.of_refused opened found refused with refusal | ⟨overflow, endless⟩
    · exact .inl (congrArg _ (Except.error.inj refusal))
    · exact .inr ⟨congrArg _ (Except.error.inj overflow), endless⟩
  · -- with a code the first redirect was accepted
    obtain ⟨parameters', found', accepted⟩ := ending.of_ok rfl
    rw [List.filterMap_append, filterMap_callback?_preparation aside,
      List.filterMap_cons_none rfl, Event.Aside.filterMap_callback? aside', List.append_nil,
      found'] at found
    rw [Option.some.inj found, refused] at accepted
    cases accepted

/-! ## Binding -/

theorem challenge?_verifierFrom (provider : CodeProvider) (entropy : Entropy) :
    ProofKey.challenge? (provider.verifierFrom entropy) =
      .ok (ProofKey.digestText (provider.verifierFrom entropy).toList) :=
  ProofKey.challenge?_verifierOf _

/-- A call that posts a code has opened one page before, with a state and a challenge that
are its own, and with the address of the listener that it started, whatever port that got.
It posts the verifier of that challenge and that same address, and the code is from the
first redirect that came, which reported no error and had that state.  When the page was
opened and the first redirect is another one, no code is posted, and the call fails as the
redirect says, unless its wait is beyond all doubles. -/
theorem code_bound_to_login (provider : CodeProvider) (login : Login) :
    ∃ events, (provider.getToken login).2.world.trace = login.world.trace ++ events ∧
      (∀ before request later, events = before ++ .request request :: later →
        Event.isCodeGrant (.request request) = true →
          ∃ challenge form code parameters,
            ProofKey.challenge? (provider.verifierFrom login.world.entropy) = .ok challenge ∧
            before.filterMap Event.page? =
              [provider.authorizationUrl (redirectUri login.world.nextPort)
                (provider.stateFrom login.world.entropy) challenge] ∧
            request = .post provider.tokenEndpoint form Provider.tokenHeaders ∧
            form.lookup "code_verifier" = some (provider.verifierFrom login.world.entropy) ∧
            form.lookup "redirect_uri" = some (redirectUri login.world.nextPort) ∧
            form.lookup "code" = some code ∧ code ≠ "" ∧
            ((before.filterMap Event.callback?).map Prod.fst).findSome? Request.redirect? =
              some parameters ∧
            Url.Query.first? parameters "error" = none ∧
            Url.Query.first? parameters "state" =
              some (provider.stateFrom login.world.entropy) ∧
            Url.Query.first? parameters "code" = some code) ∧
      ∀ url parameters, .browser url ∈ events → (takeVisit login.world).1.opening = .opened →
        ((events.filterMap Event.callback?).map Prod.fst).findSome? Request.redirect? =
          some parameters →
        (Url.Query.first? parameters "error" ≠ none ∨
          Url.Query.first? parameters "state" ≠ some (provider.stateFrom login.world.entropy) ∨
          Url.Query.first? parameters "code" = none ∨
          Url.Query.first? parameters "code" = some "") →
        (∀ event ∈ events, event.isCodeGrant = false) ∧
          ((∃ cause, (Outcome.judge parameters
                (provider.stateFrom login.world.entropy)).exception = .interaction cause ∧
              (provider.getToken login).1 = .error (.failure (.interaction cause))) ∨
            provider.callbackTimeout.toBinary64? = none ∧
              (provider.getToken login).1 = .error .overflow) := by
  obtain ⟨events, calls, trace⟩ := provider.getToken_calls login
  refine ⟨events, trace, ?_, ?_⟩
  · intro before request later split grant
    obtain ⟨tried, exchanges, code, aside, ending, rfl, rfl⟩ := calls.of_codeGrant split grant
    obtain ⟨parameters, found, accepted⟩ := ending.of_ok rfl
    obtain ⟨fine, state, given, full⟩ := Outcome.code?_judge_eq_some_iff.mp accepted
    have came : (((provider.preparation login.world.prospects tried exchanges).filterMap
        Event.callback?).map Prod.fst).findSome? Request.redirect? = some parameters := by
      rwa [filterMap_callback?_preparation aside]
    exact ⟨_, _, code, parameters, provider.challenge?_verifierFrom _,
      filterMap_page?_preparation aside exchanges, rfl, rfl, rfl, rfl, full, came, fine, state,
      given⟩
  · intro url parameters visit opened found reason
    have refused := Outcome.code?_judge_of_refused reason
    obtain ⟨none, failed⟩ := calls.of_refused visit opened found refused
    obtain ⟨cause, interaction⟩ :=
      Outcome.exception_judge parameters (provider.stateFrom login.world.entropy)
    refine ⟨none, ?_⟩
    rcases failed with failed | ⟨overflow, endless⟩
    · exact .inl ⟨cause, interaction, by rw [← interaction]; exact failed⟩
    · exact .inr ⟨endless, overflow⟩

/-- A client of an issuer that needs no secret. -/
def client : CodeProvider :=
  ⟨"https://idp.example/authorize", "https://idp.example/token", "client", none, none,
    defaultTimeout, ProofKey.defaultLength⟩

/-- A first call, whose octets are zeros: the browser asks for an icon before it brings the
code, and the token endpoint takes it. -/
def firstCall : Login where
  credentials := .empty
  world := { World.quiet (.exactly 0) (.ofOctets []) with
    replies := [.response ⟨200, [], Text.Utf8.encode
      "\x7b\"access_token\": \"t\", \"token_type\": \"Bearer\"\x7d".toList, none⟩]
    visits := [⟨.opened,
      fun _ => [Request.get "/favicon.ico",
        Request.get ("/callback?code=c&state=" ++ String.ofList (List.replicate 43 'A'))],
      fun _ => []⟩] }

theorem any_isCodeGrant_firstCall :
    (client.getToken firstCall).2.world.trace.any Event.isCodeGrant = true := by
  decide +kernel

/-- The first call posts its code with the verifier that it drew. -/
theorem code_bound_to_firstCall :
    ∃ form, .request (.post client.tokenEndpoint form Provider.tokenHeaders) ∈
        (client.getToken firstCall).2.world.trace ∧
      form.lookup "code_verifier" = some (client.verifierFrom firstCall.world.entropy) := by
  obtain ⟨events, trace, bound, -⟩ := code_bound_to_login client firstCall
  obtain ⟨event, found, grant⟩ := List.any_eq_true.mp any_isCodeGrant_firstCall
  obtain ⟨request, rfl⟩ : ∃ request, event = .request request := by
    cases event with
    | request request => exact ⟨request, rfl⟩
    | client | redirect | browser | listen | callback | close | sleep => cases grant
  obtain ⟨before, later, split⟩ := List.append_of_mem found
  obtain ⟨challenge, form, code, parameters, -, -, rfl, verifier, -⟩ :=
    bound before request later (trace.symm.trans split) grant
  exact ⟨form, found, verifier⟩

end CodeProvider

end TokenFlow
