/-
# TokenFlow.Proofs.Browsing -- the first redirect decides a login with a browser

While a login is under way its listener is `Serving`: it runs, and its outcome is what
the requests so far have decided.  The first redirect among them decides (`decision`),
and neither the requests before it nor those after it do, whether they come while the
browser is opened or while the login waits.

From this follows what every part of a login comes to and what it leaves on the trace,
up to `obtainCode_cases`: the page that was opened, the requests that came, and a code
only when they decided for one.  What a login makes of its world it makes of its
`prospects`: the random source, the port of its listener, the opening of its page, and
the longest wait.

Whatever listens, or nothing at all: requests change nothing but the listener, the trace
and the log (`deliverAll_frame`), and a page takes a visit besides (`launchBrowser_frame`).
-/
import TokenFlow.Proofs.Recorded
import TokenFlow.Provider.Code

namespace TokenFlow

set_option autoImplicit false

open TokenFlow.Number TokenFlow.Callback

namespace Callback

/-! ## Decisions -/

/-- What requests decide for a login with this state: the first redirect does. -/
def decision (state : String) (requests : List (List UInt8)) : Option Outcome :=
  (requests.findSome? Request.redirect?).map (Outcome.judge · state)

@[simp] theorem decision_nil (state : String) : decision state [] = none :=
  rfl

theorem decision_append (state : String) (first later : List (List UInt8)) :
    decision state (first ++ later) = (decision state first).or (decision state later) := by
  unfold decision
  rw [List.findSome?_append]
  cases first.findSome? Request.redirect? <;> rfl

theorem decision_singleton (state : String) (request : List UInt8) :
    decision state [request] = (Request.redirect? request).map (Outcome.judge · state) := by
  unfold decision
  rw [List.findSome?_singleton]

namespace Outcome

/-- What a login comes to with this outcome. -/
def result (outcome : Outcome) : Except Fault String :=
  match outcome.code? with
  | some code => .ok code
  | none => .error (.failure outcome.exception)

theorem code?_ofCode {code : String} (h : code ≠ "") : (ofCode code).code? = some code := by
  have shown := nonempty?_eq_some_iff.mpr ⟨rfl, h⟩
  simp [code?, success, ofCode, shown]

theorem code?_ofError (kind : ErrorKind) (error : String) (description : Option String) :
    (ofError kind error description).code? = none :=
  rfl

theorem code?_of_result {outcome : Outcome} {code : String} (h : outcome.result = .ok code) :
    outcome.code? = some code := by
  unfold result at h
  split at h
  · rename_i value given
    rw [given, Except.ok.inj h]
  · cases h

/-- A redirect is accepted with a code when it reports no error, has the state, and the
code is not empty. -/
theorem code?_judge_eq_some_iff {parameters : List (String × String)} {state code : String} :
    (judge parameters state).code? = some code ↔
      Url.Query.first? parameters "error" = none ∧
        Url.Query.first? parameters "state" = some state ∧
        Url.Query.first? parameters "code" = some code ∧ code ≠ "" := by
  cases failed : Url.Query.first? parameters "error" with
  | some error => simp [judge, failed, code?_ofError]
  | none =>
      by_cases expected : Url.Query.first? parameters "state" = some state
      · rw [← nonempty?_eq_some_iff]
        cases given : nonempty? (Url.Query.first? parameters "code") with
        | none => simp [judge, failed, expected, given, code?_ofError]
        | some value =>
            have full := (nonempty?_eq_some_iff.mp given).2
            simp [judge, failed, expected, given, code?_ofCode full]
      · simp [judge, failed, expected, code?_ofError]

theorem code?_judge_of_refused {parameters : List (String × String)} {state : String}
    (refused : Url.Query.first? parameters "error" ≠ none ∨
      Url.Query.first? parameters "state" ≠ some state ∨
      Url.Query.first? parameters "code" = none ∨ Url.Query.first? parameters "code" = some "") :
    (judge parameters state).code? = none := by
  rw [Option.eq_none_iff_forall_ne_some]
  intro code accepted
  obtain ⟨fine, expected, given, full⟩ := code?_judge_eq_some_iff.mp accepted
  rcases refused with failed | foreign | missing | empty
  · exact failed fine
  · exact foreign expected
  · rw [given] at missing
    cases missing
  · rw [given] at empty
    exact full (Option.some.inj empty)

/-- A redirect that is refused is a matter between the user and the issuer. -/
theorem exception_judge (parameters : List (String × String)) (state : String) :
    ∃ cause, (judge parameters state).exception = .interaction cause := by
  unfold judge
  split
  · exact ⟨_, rfl⟩
  · split
    · split
      · exact ⟨_, rfl⟩
      · exact ⟨_, rfl⟩
    · exact ⟨_, rfl⟩

end Outcome

/-! ## A serving listener -/

/-- A listener that runs for a state, with what was decided so far. -/
structure Listener.Serving (state : String) (decided : Option Outcome) (listener : Listener) :
    Prop where
  running : listener.running = true
  expectedState : listener.expectedState = state
  outcome : listener.outcome = decided
  done : listener.done = decided.isSome

namespace Listener.Serving

variable {state : String} {decided : Option Outcome} {listener : Listener}

theorem start_create (port : Nat) (state : String) :
    ((create state).start port).Serving state none :=
  ⟨rfl, rfl, rfl, rfl⟩

/-- A request decides when it is a redirect and the first one. -/
theorem receive (serving : listener.Serving state decided) (request : List UInt8) :
    (listener.receive none request).2.Serving state (decided.or (decision state [request])) := by
  rw [decision_singleton]
  rcases listener.receive_cases none request with
    ⟨parameters, framing, redirect, -, -, fresh, -, -, after⟩ | ⟨asks, -, after⟩
  · rw [serving.outcome] at fresh
    subst fresh
    rw [after, listener.resolve_of_none serving.outcome, redirect, serving.expectedState]
    exact ⟨serving.running, rfl, rfl, rfl⟩
  · have same : (listener.receive none request).2 = listener := by
      rcases after with after | after <;> exact after
    rw [same]
    cases decided with
    | some outcome => exact serving
    | none =>
        rw [asks serving.running serving.outcome rfl]
        exact serving

end Listener.Serving

end Callback

/-! ## What a browser does -/

/-- What ends a login that is to open a page, when something does. -/
def Opening.fault? (url : String) : Opening → Option Fault
  | .opened => none
  | .declined | .error => some (.failure (.interaction (.browserUnavailable url)))
  | .raised fault => some fault

/-- Only a page that was opened ends nothing. -/
theorem Opening.opened_of_fault? {opening : Opening} {url : String}
    (h : opening.fault? url = none) : opening = .opened := by
  cases opening with
  | opened => rfl
  | declined | error | raised => cases h

/-- What ends a login at its page is a failure, or what the opener raised. -/
theorem Opening.fault?_cases {opening : Opening} {url : String} {fault : Fault}
    (h : opening.fault? url = some fault) :
    (∃ failure, fault = .failure failure) ∨ opening = .raised fault := by
  cases opening with
  | opened => cases h
  | declined | error => exact .inl ⟨_, (Option.some.inj h).symm⟩
  | raised cause => exact .inr (congrArg _ (Option.some.inj h))

/-- The requests that are sent while a page is opened; there are none when no browser runs. -/
def Visit.sent (visit : Visit) (url : String) : List (List UInt8) :=
  if visit.opening = .error then [] else visit.during url

/-- The request among what can happen. -/
def Happening.request? : Happening → Option (List UInt8)
  | .request octets => some octets
  | .stop | .pause _ => none

/-- Nobody stops the listener. -/
def Happening.Unstopped (happenings : List Happening) : Prop :=
  .stop ∉ happenings

theorem Arrival.unstopped (arrivals : List Arrival) :
    Happening.Unstopped (arrivals.flatMap Arrival.happenings) := by
  intro found
  obtain ⟨arrival, -, stopped⟩ := List.mem_flatMap.mp found
  simp [Arrival.happenings] at stopped

namespace World

variable {world : World} {listener : Listener} {state : String} {decided : Option Outcome}

/-! ## Requests on the trace -/

/-- Delivered requests with their answers, as they stand on the trace. -/
def exchangeEvents (exchanges : List (List UInt8 × Answer)) : List Event :=
  exchanges.map fun exchange => .callback exchange.1 exchange.2

theorem filterMap_exchangeEvents (exchanges : List (List UInt8 × Answer)) :
    (exchangeEvents exchanges).filterMap Event.callback? = exchanges := by
  rw [exchangeEvents, List.filterMap_map]
  exact List.filterMap_some

/-- Requests are answered by whatever listener there is, or by nobody. -/
theorem deliverAll_frame (requests : List (List UInt8)) (world : World) :
    ∃ exchanges listener log, deliverAll none requests world =
      { world with listener, trace := world.trace ++ exchangeEvents exchanges, log } := by
  induction requests generalizing world with
  | nil => exact ⟨[], world.listener, world.log, by simp [deliverAll, exchangeEvents]⟩
  | cons request requests ih =>
      obtain ⟨answer, listener, log, delivered⟩ : ∃ answer listener log,
          (deliver none request world).2 =
            { world with listener, trace := world.trace ++ [.callback request answer], log } := by
        cases here : world.listener with
        | none => exact ⟨.refused, none, world.log, by simp [deliver, here, record]⟩
        | some listener =>
            obtain ⟨log, delivered⟩ := deliver_eq here none request
            exact ⟨_, _, _, congrArg Prod.snd delivered⟩
      obtain ⟨exchanges, listener', log', rest⟩ := ih (deliver none request world).2
      refine ⟨(request, answer) :: exchanges, listener', log', ?_⟩
      rw [deliverAll, List.foldl_cons]
      refine rest.trans ?_
      rw [delivered]
      simp [exchangeEvents]

/-- Any requests, delivered one after another to a serving listener. -/
theorem deliverAll_serving (here : world.listener = some listener)
    (serving : listener.Serving state decided) (requests : List (List UInt8)) :
    ∃ exchanges listener' log, exchanges.map Prod.fst = requests ∧
      listener'.Serving state (decided.or (decision state requests)) ∧
      deliverAll none requests world =
        { world with
          listener := some listener'
          trace := world.trace ++ exchangeEvents exchanges
          log } := by
  induction requests generalizing world listener decided with
  | nil =>
      refine ⟨[], listener, world.log, rfl, ?_, ?_⟩
      · rwa [decision_nil, Option.or_none]
      · simp [deliverAll, exchangeEvents, ← here]
  | cons request requests ih =>
      obtain ⟨log, delivered⟩ := deliver_eq here none request
      have served := serving.receive request
      have found : (deliver none request world).2.listener =
          some (listener.receive none request).2 := by
        rw [delivered]
      obtain ⟨exchanges, listener', log', rfl, serving', rest⟩ := ih found served
      refine ⟨(request, (listener.receive none request).1.1) :: exchanges, listener', log', rfl,
        ?_, ?_⟩
      · rw [← List.singleton_append, decision_append, ← Option.or_assoc]
        exact serving'
      · rw [deliverAll, List.foldl_cons]
        refine rest.trans ?_
        rw [delivered]
        simp [exchangeEvents]

/-! ## Waiting -/

theorem timely_begins (deadline clock : Binary64) (happenings : List Happening) :
    timely deadline clock happenings <+: happenings := by
  induction happenings generalizing clock with
  | nil => exact List.prefix_rfl
  | cons happening rest ih =>
      cases happening with
      | pause seconds =>
          simp only [timely]
          split
          · exact List.nil_prefix
          · exact (List.prefix_cons_inj _).mpr (ih _)
      | request octets => exact (List.prefix_cons_inj _).mpr (ih clock)
      | stop => exact (List.prefix_cons_inj _).mpr (ih clock)

/-- What happens during a wait is the beginning of what is to happen. -/
theorem happened_begins (timeout : Amount) (happenings : List Happening) (world : World) :
    happened timeout happenings world <+: happenings := by
  unfold happened during
  split
  · exact List.nil_prefix
  · split
    · exact timely_begins _ _ happenings
    · exact List.prefix_rfl

/-- Requests come to a serving listener, with time between them. -/
theorem foldl_happen_serving {happenings : List Happening}
    (unstopped : Happening.Unstopped happenings) (here : world.listener = some listener)
    (serving : listener.Serving state decided) :
    ∃ exchanges listener' clock log,
      exchanges.map Prod.fst = happenings.filterMap Happening.request? ∧
      listener'.Serving state
        (decided.or (decision state (happenings.filterMap Happening.request?))) ∧
      happenings.foldl (happen none) world =
        { world with
          clock
          listener := some listener'
          trace := world.trace ++ exchangeEvents exchanges
          log } := by
  induction happenings generalizing world listener decided with
  | nil =>
      refine ⟨[], listener, world.clock, world.log, rfl, ?_, ?_⟩
      · rwa [List.filterMap_nil, decision_nil, Option.or_none]
      · simp [exchangeEvents, ← here]
  | cons happening rest ih =>
      have unstopped' : Happening.Unstopped rest := fun found =>
        unstopped (List.mem_cons_of_mem happening found)
      cases happening with
      | stop => exact absurd List.mem_cons_self unstopped
      | pause seconds =>
          obtain ⟨clock, paused⟩ := happen_pause none seconds world
          have here' : { world with clock }.listener = some listener := here
          obtain ⟨exchanges, listener', clock', log, came, serving', after⟩ :=
            ih unstopped' here' serving
          refine ⟨exchanges, listener', clock', log, came, serving', ?_⟩
          rw [List.foldl_cons, paused, after]
      | request request =>
          obtain ⟨log, delivered⟩ := deliver_eq here none request
          have served := serving.receive request
          have found : (deliver none request world).2.listener =
              some (listener.receive none request).2 := by
            rw [delivered]
          obtain ⟨exchanges, listener', clock, log', came, serving', after⟩ :=
            ih unstopped' found served
          have listed : (Happening.request request :: rest).filterMap Happening.request? =
              [request] ++ rest.filterMap Happening.request? := rfl
          refine ⟨(request, (listener.receive none request).1.1) :: exchanges, listener', clock,
            log', congrArg (request :: ·) came, ?_, ?_⟩
          · rw [listed, decision_append, ← Option.or_assoc]
            exact serving'
          · rw [List.foldl_cons, happen, after, delivered]
            simp [exchangeEvents]

/-- What was decided is the result of a wait, and otherwise that time is over; a length
that cannot be had spoils it. -/
theorem awaitCode_serving {happenings : List Happening}
    (unstopped : Happening.Unstopped happenings) (here : world.listener = some listener)
    (serving : listener.Serving state decided) (timeout : Amount) :
    ∃ exchanges listener' clock log result,
      awaitCode none timeout happenings world =
        (result, { world with
          clock
          listener := some listener'
          trace := world.trace ++ exchangeEvents exchanges
          log }) ∧
      ((∃ reason, result = ((decided.or (decision state (exchanges.map Prod.fst))).getD
          (.ofTimeout (some reason))).result) ∨
        result = .error .overflow ∧ (timeout.toBinary64? = none ∨
          timeout.exceeds world.longestWait = true ∧
            decided.or (decision state (exchanges.map Prod.fst)) = none)) := by
  obtain ⟨exchanges, ready, clock, log, came, serving', after⟩ :=
    foldl_happen_serving
      (fun found => unstopped ((happened_begins timeout happenings world).subset found)) here
      serving
  have found : (afterHappenings none timeout happenings world).listener = some ready := by
    rw [afterHappenings, after]
  rw [← came] at serving'
  rcases awaitOutcome_cases none timeout happenings found with
    ⟨reason, clock', -, ended⟩ | ⟨long, clock', ended⟩
  · have concluded : (ready.conclude none reason).1 =
        (decided.or (decision state (exchanges.map Prod.fst))).getD
          (.ofTimeout (some reason)) := by
      rw [← serving'.outcome, Listener.conclude, Listener.outcome_resolve, Option.getD_some]
      rfl
    rw [concluded, afterHappenings, after] at ended
    refine ⟨exchanges, (ready.conclude none reason).2, clock', log, _, ?_, .inl ⟨reason, rfl⟩⟩
    rw [awaitCode, Act.bind_of_ok ended, Outcome.result]
    cases ((decided.or (decision state (exchanges.map Prod.fst))).getD
      (.ofTimeout (some reason))).code? <;> rfl
  · rw [afterHappenings, after] at ended
    refine ⟨exchanges, ready, clock', log, _, Act.bind_of_error ended, .inr ⟨rfl, ?_⟩⟩
    rcases long with endless | ⟨waits, refused⟩
    · exact .inl endless
    refine .inr ⟨refused, ?_⟩
    -- nothing came during a wait that was refused, and nothing had come before
    have quiet : happened timeout happenings world = [] := by
      rw [happened, refused, Bool.or_true, if_pos rfl]
    rw [quiet] at came
    rw [came, List.filterMap_nil, decision_nil, Option.or_none]
    have undone : listener.done = false := by simpa [isDone, here] using waits
    simpa [serving.done] using undone

/-! ## Opening a page -/

theorem takeVisit_eq (world : World) :
    takeVisit world =
      (world.visits.head?.getD .idle, { world with visits := world.visits.tail }) := by
  rcases world with ⟨_, _, _, _ | ⟨visit, rest⟩, _, _, _, _, _, _⟩
  · rfl
  · rfl

/-- A world in which a browser was just told to open a page. -/
def looking (url : String) (world : World) : World :=
  { world with visits := world.visits.tail, trace := world.trace ++ [.browser url] }

/-- A page is opened, and what the browser does later is known; or the login ends here. -/
theorem launchBrowser_eq (url : String) (world : World) :
    let visit := (takeVisit world).1
    ∃ log, launchBrowser url world =
      (match visit.opening.fault? url with
        | some fault => .error fault
        | none => .ok ((visit.later url).flatMap Arrival.happenings),
        { deliverAll none (visit.sent url) (looking url world) with log }) := by
  have looked : takeVisit (world.record (.browser url)) =
      ((takeVisit world).1, looking url world) := by
    rw [takeVisit_eq, takeVisit_eq world]
    rfl
  simp only [launchBrowser, openBrowser, Act.bind_apply, emit, Act.update_apply, Act.step_apply,
    looked, Visit.sent]
  generalize (takeVisit world).1 = visit
  cases opens : visit.opening with
  | opened => exact ⟨_, rfl⟩
  | declined => exact ⟨_, rfl⟩
  | error => exact ⟨_, rfl⟩
  | raised fault => exact ⟨_, rfl⟩

/-- The same wherever nobody looks at the listener. -/
theorem launchBrowser_frame (url : String) (world : World) :
    ∃ exchanges listener log,
      launchBrowser url world =
        (match (takeVisit world).1.opening.fault? url with
          | some fault => .error fault
          | none => .ok (((takeVisit world).1.later url).flatMap Arrival.happenings),
        { world with
          visits := world.visits.tail
          listener
          trace := world.trace ++ .browser url :: exchangeEvents exchanges
          log }) := by
  obtain ⟨log, launched⟩ := launchBrowser_eq url world
  obtain ⟨exchanges, listener, log', delivered⟩ :=
    deliverAll_frame ((takeVisit world).1.sent url) (looking url world)
  rw [delivered] at launched
  refine ⟨exchanges, listener, log, ?_⟩
  rw [launched]
  simp [looking]

/-- The same with a listener that runs and has no outcome yet. -/
theorem launchBrowser_serving (here : world.listener = some listener)
    (serving : listener.Serving state none) (url : String) :
    ∃ exchanges listener' log,
      listener'.Serving state (decision state (exchanges.map Prod.fst)) ∧
      launchBrowser url world =
        (match (takeVisit world).1.opening.fault? url with
          | some fault => .error fault
          | none => .ok (((takeVisit world).1.later url).flatMap Arrival.happenings),
        { world with
          visits := world.visits.tail
          listener := some listener'
          trace := world.trace ++ .browser url :: exchangeEvents exchanges
          log }) := by
  obtain ⟨log, launched⟩ := launchBrowser_eq url world
  have here' : (looking url world).listener = some listener := here
  obtain ⟨exchanges, listener', log', delivered, serving', after⟩ :=
    deliverAll_serving here' serving ((takeVisit world).1.sent url)
  rw [Option.none_or, ← delivered] at serving'
  rw [after] at launched
  refine ⟨exchanges, listener', log, serving', ?_⟩
  rw [launched]
  simp [looking]

end World

/-! ## A login up to its code -/

/-- What a login comes to after these requests: what they decided, or that time is over.
A page that was not opened ends it before, and a wait that cannot be had spoils it. -/
inductive Ending (timeout : Amount) (longest : Binary64) (state url : String)
    (opening : Opening) (requests : List (List UInt8)) : Except Fault String → Prop
  | decided (opened : opening = .opened) (reason : String) :
      Ending timeout longest state url opening requests
        ((decision state requests).getD (.ofTimeout (some reason))).result
  | unopened (fault : Fault) (unopened : opening.fault? url = some fault) :
      Ending timeout longest state url opening requests (.error fault)
  | endless (opened : opening = .opened)
      (endless : timeout.toBinary64? = none ∨
        timeout.exceeds longest = true ∧ decision state requests = none) :
      Ending timeout longest state url opening requests (.error .overflow)

namespace Ending

variable {timeout : Amount} {longest : Binary64} {state url : String} {opening : Opening}
  {requests : List (List UInt8)} {result : Except Fault String}

/-- A code comes from the first redirect, and this is accepted. -/
theorem of_ok {code : String} (ending : Ending timeout longest state url opening requests result)
    (h : result = .ok code) :
    ∃ parameters, requests.findSome? Request.redirect? = some parameters ∧
      (Outcome.judge parameters state).code? = some code := by
  cases ending with
  | decided opened reason =>
      have given := Outcome.code?_of_result h
      cases found : requests.findSome? Request.redirect? with
      | some parameters =>
          rw [decision, found] at given
          exact ⟨parameters, rfl, given⟩
      | none =>
          rw [decision, found] at given
          cases given
  | unopened fault unopened => cases h
  | endless opened endless => cases h

/-- When the page was opened and the first redirect is refused, so is the login. -/
theorem of_refused {parameters : List (String × String)}
    (ending : Ending timeout longest state url opening requests result)
    (opened : opening = .opened)
    (found : requests.findSome? Request.redirect? = some parameters)
    (refused : (Outcome.judge parameters state).code? = none) :
    result = .error (.failure (Outcome.judge parameters state).exception) ∨
      result = .error .overflow ∧ timeout.toBinary64? = none := by
  cases ending with
  | decided _ reason =>
      left
      rw [decision, found, Option.map_some, Option.getD_some, Outcome.result, refused]
  | unopened fault unopened =>
      rw [opened] at unopened
      cases unopened
  | endless _ endless =>
      refine .inr ⟨rfl, endless.resolve_right fun ⟨_, undecided⟩ => ?_⟩
      rw [decision, found] at undecided
      cases undecided

end Ending

namespace ProofKey

/-- The choices of a verifier of this length. -/
def choices (entropy : Entropy) (length : Nat) : List (Fin alphabet.length) × Entropy :=
  entropy.pick alphabet.length alphabet_length_pos length

theorem generate_of_bounds {length : Int}
    (bounds : (minLength : Int) ≤ length ∧ length ≤ maxLength) (world : World) :
    generate length world =
      (.ok (ofVerifier (verifierOf (choices world.entropy length.toNat).1)),
        { world with entropy := (choices world.entropy length.toNat).2 }) := by
  rw [generate, if_pos bounds]
  rfl

theorem generate_of_not_bounds {length : Int}
    (bounds : ¬ ((minLength : Int) ≤ length ∧ length ≤ maxLength)) (world : World) :
    generate length world = (.error .verifierLength, world) := by
  rw [generate, if_neg bounds]
  rfl

end ProofKey

/-- What a world has in store for a login: the random source, the port that its listener will
get, what opening its page will come to, and the longest wait. -/
structure Prospects where
  entropy : Entropy
  port : Nat
  opening : Opening
  longestWait : Binary64

namespace World

def prospects (world : World) : Prospects where
  entropy := world.entropy
  port := world.nextPort
  opening := (takeVisit world).1.opening
  longestWait := world.longestWait

theorem prospects_congr {world other : World} (entropy : world.entropy = other.entropy)
    (ports : world.ports = other.ports) (visits : world.visits = other.visits)
    (longest : world.longestWait = other.longestWait) : world.prospects = other.prospects := by
  simp [prospects, takeVisit_eq, nextPort, entropy, ports, visits, longest]

end World

namespace CodeProvider

open World

variable (provider : CodeProvider)

/-- The verifier that a login draws from this source. -/
def verifierFrom (entropy : Entropy) : String :=
  ProofKey.verifierOf (ProofKey.choices entropy provider.verifierLength.toNat).1

/-- The state that a login draws after its verifier. -/
def stateFrom (entropy : Entropy) : String :=
  Digest.Base64.encodeUrl
    ((ProofKey.choices entropy provider.verifierLength.toNat).2.draw 32).1

/-- The page that a login opens. -/
def loginUrl (prospects : Prospects) : String :=
  provider.authorizationUrl (redirectUri prospects.port) (provider.stateFrom prospects.entropy)
    (ProofKey.digestText (provider.verifierFrom prospects.entropy).toList)

/-- What a login with these prospects comes to after these requests. -/
abbrev Ends (prospects : Prospects) (requests : List (List UInt8)) :
    Except Fault String → Prop :=
  Ending provider.callbackTimeout prospects.longestWait (provider.stateFrom prospects.entropy)
    (provider.loginUrl prospects) prospects.opening requests

/-- A code that came, with what it is exchanged with. -/
def authorizationOf (prospects : Prospects) (code : String) : Authorization :=
  ⟨code, redirectUri prospects.port, provider.verifierFrom prospects.entropy⟩

/-- A listener that cannot be bound. -/
theorem listen_of_bindFails {world : World} (fails : world.bindFails = true) (state : String) :
    ∃ detail, listen state world =
      (.error (.failure (.listenerUnavailable detail)),
        { world with listener := some (Listener.create state), bindFails := false }) := by
  simp [listen, startListener, Act.bind_apply, Listener.create, Listener.running, fails]

/-- Why a login opens no page at all. -/
inductive Unstarted : Fault → Prop
  | verifierLength (outside : ¬ ((ProofKey.minLength : Int) ≤ provider.verifierLength ∧
      provider.verifierLength ≤ ProofKey.maxLength)) : Unstarted .verifierLength
  | listenerUnavailable (detail : String) :
      Unstarted (.failure (.listenerUnavailable detail))

theorem listen_of_binds {world : World} (binds : world.bindFails = false) (state : String) :
    ∃ log, listen state world =
      (.ok (), { world with
        ports := world.ports.tail
        listener := some ((Listener.create state).start world.nextPort)
        trace := world.trace ++ [.listen]
        log }) := by
  simp only [listen, startListener, Act.bind_apply, Act.get_apply, Listener.create,
    Listener.running, binds, Option.any_some, Option.isSome_none, Bool.false_eq_true, if_false]
  exact ⟨_, rfl⟩

/-- Opening the page and waiting, with a listener that runs. -/
theorem authorize_serving {world : World} {listener : Listener} {state : String} {port : Nat}
    (here : world.listener = some listener) (serving : listener.Serving state none)
    (bound : listener.port = some port) (key : ProofKey) :
    let url := provider.authorizationUrl (redirectUri port) state key.challenge
    ∃ exchanges listener' clock log result,
      Ending provider.callbackTimeout world.longestWait state url (takeVisit world).1.opening
        (exchanges.map Prod.fst) result ∧
      provider.authorize state key world =
        (result.map fun code => ⟨code, redirectUri port, key.verifier⟩, { world with
          clock
          visits := world.visits.tail
          listener := some listener'
          trace := world.trace ++ .browser url :: exchangeEvents exchanges
          log }) := by
  intro url
  have address : listenerUri world = (.ok (redirectUri port), world) := by
    simp [listenerUri, listenerPort, Act.bind_apply, here, bound, Act.pure_apply]
  let noted := world.note .info .provider "Opening browser for SSO login..."
  have written : write .info .provider "Opening browser for SSO login..." world = (.ok (), noted) :=
    rfl
  have sight : (takeVisit noted).1 = (takeVisit world).1 := by
    rw [takeVisit_eq, takeVisit_eq world]
    rfl
  have found : noted.listener = some listener := here
  rw [authorize, Act.bind_of_ok address, Act.bind_of_ok written]
  obtain ⟨during, browsed, log, serving', launched⟩ := launchBrowser_serving found serving url
  rw [sight] at launched
  cases unopened : (takeVisit world).1.opening.fault? url with
  | some fault =>
      rw [unopened] at launched
      rw [Act.bind_of_error launched]
      exact ⟨during, browsed, _, _, _, .unopened fault unopened, rfl⟩
  | none =>
      have opened := Opening.opened_of_fault? unopened
      rw [unopened] at launched
      rw [Act.bind_of_ok launched]
      let waiting : World := { noted with
        visits := noted.visits.tail
        listener := some browsed
        trace := noted.trace ++ Event.browser url :: exchangeEvents during
        log }
      have listening : waiting.listener = some browsed := rfl
      obtain ⟨later, listener', clock, log', result, awaited, outcome⟩ :=
        awaitCode_serving (Arrival.unstopped _) listening serving' provider.callbackTimeout
      rw [← decision_append, ← List.map_append] at outcome
      refine ⟨during ++ later, listener', clock, log', result, ?_, ?_⟩
      · rcases outcome with ⟨reason, rfl⟩ | ⟨rfl, endless⟩
        · exact .decided opened reason
        · exact .endless opened endless
      · rw [Act.bind_apply, awaited]
        cases result <;>
          simp [exchangeEvents, waiting, noted, World.note, Act.pure_apply, Except.map]

/-- The same with a listener of its own, which is started before and stopped in the end. -/
theorem authorize_listening {world : World} (binds : world.bindFails = false) (state : String)
    (key : ProofKey) :
    let url := provider.authorizationUrl (redirectUri world.nextPort) state key.challenge
    ∃ exchanges listener clock log result,
      Ending provider.callbackTimeout world.longestWait state url (takeVisit world).1.opening
        (exchanges.map Prod.fst) result ∧
      whileListening state (provider.authorize state key) world =
        (result.map fun code => ⟨code, redirectUri world.nextPort, key.verifier⟩, { world with
          clock
          visits := world.visits.tail
          ports := world.ports.tail
          listener
          trace := world.trace ++
            (.listen :: .browser url :: exchangeEvents exchanges ++ [.close])
          log }) := by
  intro url
  obtain ⟨log, listening⟩ := listen_of_binds binds state
  let started : World := { world with
    ports := world.ports.tail
    listener := some ((Listener.create state).start world.nextPort)
    trace := world.trace ++ [.listen]
    log }
  have here : started.listener = some ((Listener.create state).start world.nextPort) := rfl
  have sight : (takeVisit started).1 = (takeVisit world).1 := by
    rw [takeVisit_eq, takeVisit_eq world]
  obtain ⟨exchanges, listener, clock, log', result, ending, authorized⟩ :=
    provider.authorize_serving here (.start_create world.nextPort state) rfl key
  rw [sight] at ending
  refine ⟨exchanges, some listener.stop, clock, log', result, ending, ?_⟩
  rw [whileListening, Act.bind_of_ok listening, Act.thenAlways_apply, authorized]
  simp [stopListener, changeListener, record, started, url]

/-- A login either comes to nothing before it opens a page, and leaves no trace; or it
opens its page, requests come, and it ends as they decide. -/
theorem obtainCode_cases (world : World) :
    (∃ fault entropy bindFails listener, provider.Unstarted fault ∧ provider.obtainCode world =
        (.error fault, { world with entropy, bindFails, listener })) ∨
      ∃ exchanges entropy listener clock log result,
        provider.Ends world.prospects (exchanges.map Prod.fst) result ∧
        provider.obtainCode world =
          (result.map (provider.authorizationOf world.prospects),
            { world with
              clock
              entropy
              visits := world.visits.tail
              ports := world.ports.tail
              listener
              trace := world.trace ++
                (.listen :: .browser (provider.loginUrl world.prospects)
                  :: exchangeEvents exchanges ++ [.close])
              log }) := by
  by_cases bounds : (ProofKey.minLength : Int) ≤ provider.verifierLength ∧
      provider.verifierLength ≤ ProofKey.maxLength
  · let chosen := ProofKey.choices world.entropy provider.verifierLength.toNat
    let drawn : World := { world with entropy := (chosen.2.draw 32).2 }
    have key := ProofKey.generate_of_bounds bounds world
    have state : drawState { world with entropy := chosen.2 } =
        (.ok (provider.stateFrom world.entropy), drawn) := rfl
    rw [obtainCode, Act.bind_of_ok key, Act.bind_of_ok state]
    rcases Bool.eq_false_or_eq_true drawn.bindFails with fails | binds
    · obtain ⟨detail, failed⟩ := listen_of_bindFails fails (provider.stateFrom world.entropy)
      exact .inl ⟨_, _, _, _, .listenerUnavailable detail,
        Act.bind_of_error (Act.bind_of_error failed)⟩
    · obtain ⟨exchanges, listener, clock, log, result, ending, visited⟩ :=
        provider.authorize_listening binds (provider.stateFrom world.entropy)
          (ProofKey.ofVerifier (provider.verifierFrom world.entropy))
      have sight : (takeVisit drawn).1 = (takeVisit world).1 := by
        rw [takeVisit_eq, takeVisit_eq world]
      rw [sight] at ending
      right
      cases result with
      | error fault =>
          exact ⟨exchanges, drawn.entropy, listener, clock, log, _, ending,
            Act.bind_of_error visited⟩
      | ok code =>
          exact ⟨exchanges, drawn.entropy, listener, clock, _, _, ending, Act.bind_of_ok visited⟩
  · refine .inl ⟨_, world.entropy, world.bindFails, world.listener, .verifierLength bounds, ?_⟩
    exact Act.bind_of_error (ProofKey.generate_of_not_bounds bounds world)

end CodeProvider

end TokenFlow
