/-
# TokenFlow.Proofs.Release -- a call gives back what it took

A login takes a listener and the lock of its key.  It has a way out at nearly every step,
and on all of them the listener is stopped before anything else is done: a call that
started a listener leaves a world in which none runs, and there requests are refused and
change nothing but the trace (`deliverAll_of_silent`).

The lock is free after a call.  With many callers it is taken exactly while one of them
holds it (`Scene.Run.locked_iff`), so whoever waits can go on as soon as nobody does.
-/
import TokenFlow.Proofs.CallOrder
import TokenFlow.Proofs.LoginBinding
import TokenFlow.Proofs.SingleFlight

namespace TokenFlow

set_option autoImplicit false

open TokenFlow.Callback

/-! ## Where no listener runs -/

namespace World

variable {world : World}

/-- Whether the listener of this world runs. -/
def serves (world : World) : Bool :=
  world.listener.any (·.running)

theorem serves_stopListener (world : World) : (stopListener world).serves = false := by
  cases here : world.listener <;> simp [serves, stopListener, changeListener, record, here,
    Listener.stop, Listener.running]

theorem deliver_of_silent (silent : world.serves = false) (rival : Option Outcome)
    (request : List UInt8) :
    deliver rival request world = (.refused, world.record (.callback request .refused)) := by
  unfold deliver
  cases here : world.listener with
  | none => rfl
  | some listener =>
      have idle : listener.running = false := by
        rwa [serves, here, Option.any_some] at silent
      have same : { world with listener := some listener } = world := by rw [← here]
      simp [Listener.receive, idle, same]

/-- Whatever is sent, by whomever, is refused, and nothing comes of it. -/
theorem deliverAll_of_silent (silent : world.serves = false) (rival : Option Outcome)
    (requests : List (List UInt8)) :
    deliverAll rival requests world =
      { world with trace := world.trace ++ requests.map (.callback · .refused) } := by
  induction requests generalizing world with
  | nil => simp [deliverAll]
  | cons request requests ih =>
      have still : (world.record (.callback request .refused)).serves = false := silent
      rw [deliverAll, List.foldl_cons, deliver_of_silent silent rival request]
      refine (ih still).trans ?_
      simp [record]

end World

/-! ## Parts of a call -/

theorem count_listen_outline (events : List Event) :
    (outline events).count .listen = events.count .listen :=
  List.count_filter rfl

namespace CodeProvider

open World

variable {provider : CodeProvider} {events : List Event}

/-- Renewal needs no listener. -/
theorem Renews.count_listen {refreshToken : Option String}
    (renews : provider.Renews refreshToken events) : events.count .listen = 0 := by
  rw [← count_listen_outline, renews.deeds, renewalDeeds]
  cases nonempty? refreshToken <;> rfl

theorem LogInDeeds.count_listen {prospects : Prospects} {visit exchange : List Event}
    (deeds : provider.LogInDeeds prospects visit exchange) :
    (visit ++ exchange).count .listen ≤ 1 := by
  cases deeds with
  | unvisited => exact Nat.zero_le 1
  | visited url => exact Nat.le_refl 1
  | exchanged url code => exact Nat.le_refl 1

/-- Whether a listener was started or not, and whatever is then done with it: in the end none
runs. -/
theorem serves_whileListening {α : Type} (state : String) (action : WorldAct α) (world : World) :
    (whileListening state action world).2.serves = false := by
  rcases Bool.eq_false_or_eq_true world.bindFails with fails | binds
  · obtain ⟨detail, failed⟩ := listen_of_bindFails fails state
    rw [whileListening, Act.bind_of_error failed]
    rfl
  · obtain ⟨log, listening⟩ := listen_of_binds binds state
    rw [whileListening, Act.bind_of_ok listening, Act.thenAlways_apply]
    exact serves_stopListener _

variable (provider)

/-- A login that can draw no verifier does nothing.  On every other way out its listener
is stopped. -/
theorem obtainCode_rests (world : World) :
    provider.obtainCode world = (.error .verifierLength, world) ∨
      (provider.obtainCode world).2.serves = false := by
  by_cases bounds : (ProofKey.minLength : Int) ≤ provider.verifierLength ∧
      provider.verifierLength ≤ ProofKey.maxLength
  · right
    let chosen := ProofKey.choices world.entropy provider.verifierLength.toNat
    let drawn : World := { world with entropy := (chosen.2.draw 32).2 }
    have key := ProofKey.generate_of_bounds bounds world
    have state : drawState { world with entropy := chosen.2 } =
        (.ok (provider.stateFrom world.entropy), drawn) := rfl
    rw [obtainCode, Act.bind_of_ok key, Act.bind_of_ok state]
    -- behind the visit only the log is written
    have logged (authorization : Authorization) : Act.Keeps serves (do
        write .debug .provider "Received authorization code, exchanging for tokens..."
        pure authorization) :=
      .bind (.update fun _ => rfl) fun _ => .pure _
    exact (Act.Keeps.bind_snd _ logged drawn).trans (serves_whileListening _ _ drawn)
  · left
    exact Act.bind_of_error (ProofKey.generate_of_not_bounds bounds world)

/-- The exchange of the code comes after that, and needs no listener. -/
theorem logIn_rests (login : Login) :
    provider.logIn login = (.error .verifierLength, login) ∨
      (provider.logIn login).2.world.serves = false := by
  have rests := provider.obtainCode_rests login.world
  rcases obtained : provider.obtainCode login.world with ⟨fault | authorization, world⟩
  · rw [obtained] at rests
    rw [logIn, Act.bind_of_error (Login.inWorld_of obtained)]
    rcases rests with none | silent
    · cases none
      exact .inl rfl
    · exact .inr silent
  · rw [obtained] at rests
    have silent : world.serves = false := rests.resolve_left fun none => by cases none
    rw [logIn, Act.bind_of_ok (Login.inWorld_of obtained)]
    obtain ⟨redirects, -, adds⟩ := provider.exchange_adds authorization.code
      authorization.redirectUri authorization.verifier { login with world }
    right
    rwa [serves, adds.listener]

/-- What is done without a listener leaves the listener alone. -/
theorem flow_rests (login : Login) :
    (∃ events, events.count .listen = 0 ∧ login.world.Adds (provider.flow login).2.world events) ∨
      (provider.flow login).2.world.serves = false := by
  obtain ⟨tried, renews, adds⟩ := provider.renew_adds login
  rcases renewed : provider.renew login with ⟨fault | credential | none, after⟩
  · rw [renewed] at adds
    rw [flow, Act.bind_of_error renewed]
    exact .inl ⟨tried, renews.count_listen, adds⟩
  · rw [renewed] at adds
    rw [flow, Act.bind_of_ok renewed]
    rcases provider.logIn_rests after with none | silent
    · left
      show ∃ events, _ ∧ login.world.Adds (provider.logIn after).2.world events
      rw [none]
      exact ⟨tried, renews.count_listen, adds⟩
    · exact .inr silent
  · rw [renewed] at adds
    rw [flow, Act.bind_of_ok renewed]
    exact .inl ⟨tried, renews.count_listen, adds⟩

/-- A flow starts one listener at most. -/
theorem flow_listens_once (login : Login) :
    ∃ events, (provider.flow login).2.world.trace = login.world.trace ++ events ∧
      events.count .listen ≤ 1 := by
  obtain ⟨events, visit, exchange, -, trace, deeds, kind, -⟩ := provider.flow_deeds login
  obtain ⟨tried, renews, -⟩ := provider.renew_adds login
  refine ⟨events, trace, ?_⟩
  have none : (provider.renewalDeeds login.credentials.refreshToken).count .listen = 0 := by
    rw [← renews.deeds, count_listen_outline, renews.count_listen]
  rw [← count_listen_outline, deeds, List.append_assoc, List.count_append, none, Nat.zero_add]
  exact kind.count_listen

/-- A call starts one listener at most.  It leaves the listener alone, or none runs. -/
theorem getToken_rests (login : Login) :
    ∃ events, (provider.getToken login).2.world.trace = login.world.trace ++ events ∧
      events.count .listen ≤ 1 ∧
      ((.listen ∉ events ∧
          (provider.getToken login).2.world.listener = login.world.listener) ∨
        (provider.getToken login).2.world.serves = false) := by
  cases look : login.credentials.usable? login.world.clock buffer with
  | some value =>
      rw [getToken_of_usable look]
      exact ⟨[], (List.append_nil _).symm, Nat.zero_le 1, .inl ⟨List.not_mem_nil, rfl⟩⟩
  | none =>
      obtain ⟨-, world, -⟩ := @getToken_of_flow provider login look
      rw [world]
      obtain ⟨events, trace, once⟩ := provider.flow_listens_once (login.setLocked true)
      refine ⟨events, trace, once, ?_⟩
      rcases provider.flow_rests (login.setLocked true) with ⟨others, none, adds⟩ | silent
      · obtain rfl : others = events := List.append_cancel_left (adds.trace.symm.trans trace)
        exact .inl ⟨List.count_eq_zero.mp none, adds.listener⟩
      · exact .inr silent

/-! ## Calls -/

/-- The lock of a key that nobody holds is free again after a call. -/
theorem locked_getToken (login : Login) (free : login.credentials.locked = false) :
    (provider.getToken login).2.credentials.locked = false := by
  cases look : login.credentials.usable? login.world.clock buffer with
  | some value => rwa [getToken_of_usable look]
  | none =>
      rw [getToken_of_none look]
      rfl

/-- A call starts one listener at most.  However it ends, that one does not run any more:
every request is refused from then on, and changes nothing that is recorded.  The listener
was stopped before a code is posted.  The lock is free in the end; and among any number of
callers, whoever waits for it can take it as soon as no caller holds it.

For neither does it matter what is done in between.  Whatever stands in the place of the
visit, and of the work under the lock, and however that ends, no listener runs after it and
the lock is free. -/
theorem getToken_releases (provider : CodeProvider) (login : Login) :
    (∃ events, (provider.getToken login).2.world.trace = login.world.trace ++ events ∧
      events.count .listen ≤ 1 ∧
      ((.listen ∉ events ∧
          (provider.getToken login).2.world.listener = login.world.listener) ∨
        ((∀ listener, (provider.getToken login).2.world.listener = some listener →
            listener.running = false) ∧
          ∀ rival requests, deliverAll rival requests (provider.getToken login).2.world =
            { (provider.getToken login).2.world with
              trace := (provider.getToken login).2.world.trace
                ++ requests.map (.callback · .refused) })) ∧
      ∀ before request later, events = before ++ .request request :: later →
        Event.isCodeGrant (.request request) = true →
          ∃ early visit, before =
            early ++ .listen :: visit ++ [.close, .client (.create none true)]) ∧
      (login.credentials.locked = false →
        (provider.getToken login).2.credentials.locked = false) ∧
      (∀ (ι : Type) [DecidableEq ι] (provider : ι → Provider) (scene next : Scene ι)
        (caller : ι), scene.Fresh → Scene.Run provider scene next →
        next.phase caller = .waiting → (∀ other, ¬ (next.phase other).Holds) →
          ∃ after, Scene.Step provider next after ∧ after.phase caller = .inside) ∧
      (∀ (α : Type) (state : String) (action : WorldAct α) (world : World) (listener : Listener),
        (whileListening state action world).2.listener = some listener →
          listener.running = false) ∧
      ∀ (α : Type) (action : LoginAct α) (login : Login),
        (Login.holding action login).2.credentials.locked = false := by
  refine ⟨?_, provider.locked_getToken login, ?_, ?_, fun _ _ _ => rfl⟩
  · obtain ⟨events, trace, once, rests⟩ := provider.getToken_rests login
    obtain ⟨others, calls, trace'⟩ := provider.getToken_calls login
    obtain rfl : others = events := List.append_cancel_left (trace'.symm.trans trace)
    refine ⟨others, trace, once, ?_, fun before request later split grant => ?_⟩
    · rcases rests with unstarted | silent
      · exact .inl unstarted
      · refine .inr ⟨fun listener here => ?_, deliverAll_of_silent silent⟩
        rwa [serves, here, Option.any_some] at silent
    · obtain ⟨tried, exchanges, code, -, -, rfl, -⟩ := calls.of_codeGrant split grant
      refine ⟨tried, .browser (provider.loginUrl login.world.prospects)
        :: exchangeEvents exchanges, ?_⟩
      simp [preparation, visitEvents]
  · intro ι _ provider scene next caller fresh run waiting none
    have free : ¬ next.Held := not_exists.mpr none
    exact ⟨_, run.can_lock fresh waiting free, Scene.phase_move_self⟩
  · intro α state action world listener here
    have silent := serves_whileListening state action world
    rwa [serves, here, Option.any_some] at silent

/-- A redirect that comes after the first call is refused. -/
theorem firstCall_releases :
    .listen ∈ (client.getToken firstCall).2.world.trace ∧
      (deliverAll none [Request.get "/callback?code=late"]
          (client.getToken firstCall).2.world).trace =
        (client.getToken firstCall).2.world.trace
          ++ [.callback (Request.get "/callback?code=late") .refused] ∧
      (client.getToken firstCall).2.credentials.locked = false := by
  have started : .listen ∈ (client.getToken firstCall).2.world.trace := by decide +kernel
  obtain ⟨⟨events, trace, -, rests, -⟩, free, -⟩ := getToken_releases client firstCall
  refine ⟨started, ?_, free rfl⟩
  rcases rests with ⟨unstarted, -⟩ | ⟨-, refused⟩
  · rw [trace] at started
    exact absurd started unstarted
  · rw [refused]
    rfl

end CodeProvider

end TokenFlow
