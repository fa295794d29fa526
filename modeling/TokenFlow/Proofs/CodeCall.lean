/-
# TokenFlow.Proofs.CodeCall -- what a call with a code leaves on the trace

A call is over at once when a token is kept.  Otherwise it tries the refresh token, when
there is one, and logs in only when that gave nothing.  `Renews`, `LogsIn` and `Calls`
say what each of these may leave on the trace, and what it may come to then; the trace
of every call is of this kind (`getToken_calls`).

Renewal takes nothing from the browser, leaves the listener alone and draws nothing at
random (`Adds`), so a login that follows it has the prospects of a login without it: it
opens the same page, with the same verifier, state and port.
-/
import TokenFlow.Proofs.Acquisition
import TokenFlow.Proofs.Browsing
import TokenFlow.Proofs.Requests

namespace TokenFlow

set_option autoImplicit false

open TokenFlow.Callback

/-! ## Traces that grow -/

/-- These events happened, and the browser, the listener and the random source are as
before. -/
structure World.Adds (before after : World) (events : List Event) : Prop where
  trace : after.trace = before.trace ++ events
  entropy : after.entropy = before.entropy
  visits : after.visits = before.visits
  ports : after.ports = before.ports
  longestWait : after.longestWait = before.longestWait
  listener : after.listener = before.listener

theorem World.Adds.refl (world : World) : world.Adds world [] :=
  ⟨(List.append_nil _).symm, rfl, rfl, rfl, rfl, rfl⟩

theorem World.Adds.prospects {before after : World} {events : List Event}
    (adds : before.Adds after events) : after.prospects = before.prospects :=
  prospects_congr adds.entropy adds.ports adds.visits adds.longestWait

/-- What is to be seen of a login from outside, its log aside. -/
def Login.surroundings (login : Login) : World :=
  { login.world with log := [] }

theorem World.Adds.of_surroundings {world : World} {login after : Login} {events : List Event}
    (adds : world.Adds login.world events) (same : after.surroundings = login.surroundings) :
    world.Adds after.world events where
  trace := (congrArg World.trace same).trans adds.trace
  entropy := (congrArg World.entropy same).trans adds.entropy
  visits := (congrArg World.visits same).trans adds.visits
  ports := (congrArg World.ports same).trans adds.ports
  longestWait := (congrArg World.longestWait same).trans adds.longestWait
  listener := (congrArg World.listener same).trans adds.listener

namespace CodeProvider

open World

variable (provider : CodeProvider)

/-! ## Token requests -/

theorem requestGrant_adds (step : GrantStep) (endpoint : String) (form : Http.Form)
    (login : Login) :
    ∃ redirects, (∀ event ∈ redirects, Event.IsRedirect event) ∧
      login.world.Adds (Login.inWorld (Provider.requestGrant step endpoint form) login).2.world
        (Provider.tokenEvents endpoint form ++ redirects) := by
  obtain ⟨replies, redirects, only, after⟩ :=
    Provider.requestGrant_frame step endpoint form login.world
  refine ⟨redirects, only, ?_⟩
  have same : (Login.inWorld (Provider.requestGrant step endpoint form) login).2.world =
      (Provider.requestGrant step endpoint form login.world).2 := rfl
  rw [same, after]
  exact ⟨rfl, rfl, rfl, rfl, rfl, rfl⟩

theorem exchange_adds (code redirectUri verifier : String) (login : Login) :
    ∃ redirects, (∀ event ∈ redirects, Event.IsRedirect event) ∧
      login.world.Adds (provider.exchange code redirectUri verifier login).2.world
        (Provider.tokenEvents provider.tokenEndpoint
          (provider.exchangeForm code redirectUri verifier) ++ redirects) := by
  obtain ⟨redirects, only, adds⟩ := requestGrant_adds .exchange provider.tokenEndpoint
    (provider.exchangeForm code redirectUri verifier) login
  refine ⟨redirects, only, adds.of_surroundings ?_⟩
  unfold exchange
  refine Act.Keeps.bind_snd _ (fun grant => ?_) login
  refine .bind (keepRenewal_keeps (fun _ _ => rfl) grant) fun _ => ?_
  exact .bind (note_keeps (fun _ _ => rfl) _ _) fun _ => receive_keeps grant

theorem refresh_adds (refreshToken : String) (login : Login) :
    ∃ redirects, (∀ event ∈ redirects, Event.IsRedirect event) ∧
      login.world.Adds (provider.refresh refreshToken login).2.world
        (Provider.tokenEvents provider.tokenEndpoint (provider.refreshForm refreshToken)
          ++ redirects) := by
  obtain ⟨redirects, only, adds⟩ := requestGrant_adds .refresh provider.tokenEndpoint
    (provider.refreshForm refreshToken) login
  rw [← Act.attempt_snd] at adds
  refine ⟨redirects, only, adds.of_surroundings ?_⟩
  unfold refresh
  refine Act.Keeps.bind_snd _ (fun answer => ?_) login
  cases answer with
  | error failure =>
      refine .bind (note_keeps (fun _ _ => rfl) _ _) fun _ => ?_
      exact .bind (Login.keepRefresh_keeps (fun _ _ => rfl) none) fun _ => .pure none
  | ok grant =>
      refine .bind (keepRenewal_keeps (fun _ _ => rfl) grant) fun _ => ?_
      exact .bind (note_keeps (fun _ _ => rfl) _ _) fun _ => .map (receive_keeps grant) some

/-! ## Renewal -/

/-- What trying the kept refresh token leaves: nothing when there is none. -/
def Renews (refreshToken : Option String) (events : List Event) : Prop :=
  match nonempty? refreshToken with
  | none => events = []
  | some refreshToken => ∃ redirects, (∀ event ∈ redirects, Event.IsRedirect event) ∧
      events = Provider.tokenEvents provider.tokenEndpoint (provider.refreshForm refreshToken)
        ++ redirects

theorem renew_adds (login : Login) :
    ∃ events, provider.Renews login.credentials.refreshToken events ∧
      login.world.Adds (provider.renew login).2.world events := by
  rw [renew, Act.bind_of_ok (Act.get_apply login)]
  unfold Renews
  cases nonempty? login.credentials.refreshToken with
  | none => exact ⟨[], rfl, .refl login.world⟩
  | some refreshToken =>
      obtain ⟨redirects, only, adds⟩ := provider.refresh_adds refreshToken login
      exact ⟨_, ⟨redirects, only, rfl⟩, adds⟩

/-! ## Login -/

/-- The events of a login up to its code, with the requests that came. -/
def visitEvents (prospects : Prospects) (exchanges : List (List UInt8 × Answer)) : List Event :=
  .listen :: .browser (provider.loginUrl prospects) :: exchangeEvents exchanges ++ [.close]

/-- Nothing of this is sent to the network. -/
theorem request?_visitEvents (prospects : Prospects) (exchanges : List (List UInt8 × Answer)) :
    ∀ event ∈ provider.visitEvents prospects exchanges, event.request? = none := by
  intro event found
  simp only [visitEvents, exchangeEvents, List.cons_append, List.mem_cons, List.mem_append,
    List.mem_map, List.not_mem_nil, or_false] at found
  rcases found with rfl | rfl | ⟨exchange, -, rfl⟩ | rfl
  · rfl
  · rfl
  · rfl
  · rfl

/-- The form that exchanges a code. -/
def codeForm (prospects : Prospects) (code : String) : Http.Form :=
  provider.exchangeForm code (redirectUri prospects.port)
    (provider.verifierFrom prospects.entropy)

/-- What a login leaves, and what it comes to. -/
inductive LogsIn (prospects : Prospects) : List Event → Except Fault Credential → Prop
  /-- It ended before a page was opened. -/
  | unopened (fault : Fault) : LogsIn prospects [] (.error fault)
  /-- It got no code. -/
  | refused (exchanges : List (List UInt8 × Answer)) (fault : Fault)
      (ending : provider.Ends prospects (exchanges.map Prod.fst) (.error fault)) :
      LogsIn prospects (provider.visitEvents prospects exchanges) (.error fault)
  | exchanged (exchanges : List (List UInt8 × Answer)) (code : String) (redirects : List Event)
      (result : Except Fault Credential)
      (ending : provider.Ends prospects (exchanges.map Prod.fst) (.ok code))
      (only : ∀ event ∈ redirects, Event.IsRedirect event) :
      LogsIn prospects
        (provider.visitEvents prospects exchanges
          ++ (Provider.tokenEvents provider.tokenEndpoint (provider.codeForm prospects code)
            ++ redirects))
        result

theorem logIn_logsIn (login : Login) :
    ∃ events, provider.LogsIn login.world.prospects events (provider.logIn login).1 ∧
      (provider.logIn login).2.world.trace = login.world.trace ++ events := by
  rcases provider.obtainCode_cases login.world with
    ⟨fault, entropy, bindFails, listener, -, obtained⟩ |
    ⟨exchanges, entropy, listener, clock, log, result, ending, obtained⟩
  · rw [logIn, Act.bind_of_error (Login.inWorld_of obtained)]
    exact ⟨[], .unopened fault, (List.append_nil _).symm⟩
  · cases result with
    | error fault =>
        rw [logIn, Act.bind_of_error (Login.inWorld_of obtained)]
        exact ⟨_, .refused exchanges fault ending, rfl⟩
    | ok code =>
        rw [logIn, Act.bind_of_ok (Login.inWorld_of obtained)]
        obtain ⟨redirects, only, adds⟩ := provider.exchange_adds code
          (redirectUri login.world.prospects.port)
          (provider.verifierFrom login.world.prospects.entropy) _
        refine ⟨_, .exchanged exchanges code redirects _ ending only, ?_⟩
        exact adds.trace.trans (List.append_assoc ..)

/-! ## Calls -/

/-- What a call leaves, and what it comes to. -/
inductive Calls (refreshToken : Option String) (prospects : Prospects) :
    List Event → Except Fault String → Prop
  | kept (value : String) : Calls refreshToken prospects [] (.ok value)
  /-- It ended with renewal. -/
  | renewed (events : List Event) (result : Except Fault String)
      (renews : provider.Renews refreshToken events) :
      Calls refreshToken prospects events result
  | loggedIn (tried events : List Event) (result : Except Fault Credential)
      (renews : provider.Renews refreshToken tried)
      (logsIn : provider.LogsIn prospects events result) :
      Calls refreshToken prospects (tried ++ events)
        (result.map fun credential => credential.value)

theorem flow_calls (login : Login) :
    ∃ events, provider.Calls login.credentials.refreshToken login.world.prospects events
        ((provider.flow login).1.map fun credential => credential.value) ∧
      (provider.flow login).2.world.trace = login.world.trace ++ events := by
  obtain ⟨tried, renews, adds⟩ := provider.renew_adds login
  rcases renewed : provider.renew login with ⟨fault | credential | none, after⟩
  · rw [renewed] at adds
    rw [flow, Act.bind_of_error renewed]
    exact ⟨tried, .renewed tried _ renews, adds.trace⟩
  · rw [renewed] at adds
    obtain ⟨events, logsIn, trace⟩ := provider.logIn_logsIn after
    rw [adds.prospects] at logsIn
    rw [flow, Act.bind_of_ok renewed]
    refine ⟨tried ++ events, .loggedIn tried events _ renews logsIn, ?_⟩
    rw [trace, adds.trace, List.append_assoc]
  · rw [renewed] at adds
    rw [flow, Act.bind_of_ok renewed]
    exact ⟨tried, .renewed tried _ renews, adds.trace⟩

/-- Every call is of this kind, whatever was kept and whatever the world does. -/
theorem getToken_calls (login : Login) :
    ∃ events, provider.Calls login.credentials.refreshToken login.world.prospects events
        (provider.getToken login).1 ∧
      (provider.getToken login).2.world.trace = login.world.trace ++ events := by
  cases look : login.credentials.usable? login.world.clock buffer with
  | some value =>
      rw [getToken_of_usable look]
      exact ⟨[], .kept value, (List.append_nil _).symm⟩
  | none =>
      obtain ⟨events, calls, trace⟩ := provider.flow_calls (login.setLocked true)
      obtain ⟨result, world, -⟩ := @getToken_of_flow provider login look
      refine ⟨events, ?_, (congrArg World.trace world).trans trace⟩
      rw [result]
      exact calls

end CodeProvider

end TokenFlow
