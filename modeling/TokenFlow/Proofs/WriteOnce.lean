/-
# TokenFlow.Proofs.WriteOnce -- a listener has one outcome, whoever comes first

Requests, waits and whoever else knows better write to one slot, in any order and any
number, before a start and after a stop.  `Operation` is one thing that can be done
to the listener of a world, and a run is any list of them.

`deliveries` lists the requests of a run with the worlds they found, those that came
during a wait among them; the trace of the run holds exactly these
(`callbacks_performAll`).  A page needs an empty slot before it and leaves a full one
after it, and the slot is never emptied, so of any two requests the later one gets
none (`pairwise_deliveries`).
-/
import TokenFlow.Proofs.Recorded

namespace TokenFlow

set_option autoImplicit false

open TokenFlow.Number TokenFlow.Callback

/-! ## Operations -/

/-- One thing that is done to a listener.  A rival records an outcome between the
examination of a request and its answer, or at the very end of a wait. -/
inductive Operation where
  | start (bindFails : Bool)
  | stop
  | request (rival : Option Outcome) (octets : List UInt8)
  | resolve (outcome : Outcome)
  | wait (rival : Option Outcome) (timeout : Amount) (happenings : List Happening)

/-- A request that reached a world, perhaps with a rival on its heels. -/
structure Delivery where
  world : World
  rival : Option Outcome
  request : List UInt8

namespace Delivery

def answer (delivery : Delivery) : Answer :=
  (World.deliver delivery.rival delivery.request delivery.world).1

def after (delivery : Delivery) : World :=
  (World.deliver delivery.rival delivery.request delivery.world).2

/-- The request is answered with a page of this library. -/
def hasPage (delivery : Delivery) : Bool :=
  delivery.answer.page?.isSome

end Delivery

namespace World

/-- The world after one operation, whether it raised or not. -/
def perform (world : World) : Operation → World
  | .start bindFails => (startListener { world with bindFails }).2
  | .stop => stopListener world
  | .request rival octets => (deliver rival octets world).2
  | .resolve outcome => changeListener (fun listener => (listener.resolve outcome).2) world
  | .wait rival timeout happenings => (awaitOutcome rival timeout happenings world).2

def performAll (operations : List Operation) (world : World) : World :=
  operations.foldl perform world

/-- The requests among the things that happen one after another. -/
def happeningDeliveries (rival : Option Outcome) : List Happening → World → List Delivery
  | [], _ => []
  | .request octets :: rest, world =>
      ⟨world, rival, octets⟩
        :: happeningDeliveries rival rest (happen rival world (.request octets))
  | happening :: rest, world => happeningDeliveries rival rest (happen rival world happening)

/-- The requests that one operation delivers; a wait that is over at once delivers none. -/
def operationDeliveries (world : World) : Operation → List Delivery
  | .request rival octets => [⟨world, rival, octets⟩]
  | .wait rival timeout happenings =>
      happeningDeliveries rival (happened timeout happenings world) world
  | _ => []

/-- All requests of a run, in order. -/
def deliveries : List Operation → World → List Delivery
  | [], _ => []
  | operation :: rest, world =>
      operationDeliveries world operation ++ deliveries rest (world.perform operation)

theorem performAll_append (before rest : List Operation) (world : World) :
    performAll (before ++ rest) world = performAll rest (performAll before world) :=
  List.foldl_append

/-! ## Order -/

theorem perform_follows (world : World) (operation : Operation) :
    world.Follows (world.perform operation) := by
  cases operation with
  | start bindFails =>
      exact (Follows.of_listener_eq rfl).trans (startListener_follows { world with bindFails })
  | stop => exact (stop_follows world).trans (.of_listener_eq rfl)
  | request rival octets => exact deliver_follows rival octets world
  | resolve outcome => exact resolve_follows outcome world
  | wait rival timeout happenings => exact awaitOutcome_follows rival timeout happenings world

theorem performAll_follows (operations : List Operation) (world : World) :
    world.Follows (performAll operations world) := by
  induction operations generalizing world with
  | nil => exact .refl world
  | cons operation rest ih => exact (perform_follows world operation).trans (ih _)

theorem happeningDeliveries_between (rival : Option Outcome) (happenings : List Happening)
    (world : World) :
    ∀ delivery ∈ happeningDeliveries rival happenings world,
      world.Follows delivery.world ∧
        delivery.after.Follows (happenings.foldl (happen rival) world) := by
  induction happenings generalizing world with
  | nil => exact List.forall_mem_nil _
  | cons happening rest ih =>
      have first := happen_follows rival happening world
      intro delivery found
      cases happening with
      | request octets =>
          rcases List.mem_cons.mp found with rfl | later
          · exact ⟨.refl world, foldl_happen_follows rival rest _⟩
          · obtain ⟨before, after⟩ := ih _ delivery later
            exact ⟨first.trans before, after⟩
      | stop | pause =>
          obtain ⟨before, after⟩ := ih _ delivery found
          exact ⟨first.trans before, after⟩

/-- A delivery stands between the worlds before and after its operation. -/
theorem operationDeliveries_between (world : World) (operation : Operation) :
    ∀ delivery ∈ operationDeliveries world operation,
      world.Follows delivery.world ∧ delivery.after.Follows (world.perform operation) := by
  intro delivery found
  cases operation with
  | start => cases found
  | stop => cases found
  | resolve => cases found
  | request rival octets =>
      obtain rfl := List.mem_singleton.mp found
      exact ⟨.refl world, .refl _⟩
  | wait rival timeout happenings =>
      obtain ⟨before, after⟩ := happeningDeliveries_between rival _ world delivery found
      have ended : (afterHappenings rival timeout happenings world).Follows
          (awaitOutcome rival timeout happenings world).2 :=
        lasting_kept.awaitOutcome_of_afterHappenings rival timeout happenings world
      exact ⟨before, after.trans ended⟩

theorem deliveries_between (operations : List Operation) (world : World) :
    ∀ delivery ∈ deliveries operations world,
      world.Follows delivery.world ∧ delivery.after.Follows (performAll operations world) := by
  induction operations generalizing world with
  | nil => exact List.forall_mem_nil _
  | cons operation rest ih =>
      intro delivery found
      rcases List.mem_append.mp found with now | later
      · obtain ⟨before, after⟩ := operationDeliveries_between world operation delivery now
        exact ⟨before, after.trans (performAll_follows rest _)⟩
      · obtain ⟨before, after⟩ := ih _ delivery later
        exact ⟨(perform_follows world operation).trans before, after⟩

theorem pairwise_happeningDeliveries (rival : Option Outcome) (happenings : List Happening)
    (world : World) :
    (happeningDeliveries rival happenings world).Pairwise
      fun first second => first.after.Follows second.world := by
  induction happenings generalizing world with
  | nil => exact .nil
  | cons happening rest ih =>
      cases happening with
      | request octets =>
          refine .cons (fun later found => ?_) (ih _)
          exact (happeningDeliveries_between rival rest _ later found).1
      | stop | pause => exact ih _

/-- What one request leaves, the later ones find. -/
theorem pairwise_deliveries (operations : List Operation) (world : World) :
    (deliveries operations world).Pairwise
      fun first second => first.after.Follows second.world := by
  induction operations generalizing world with
  | nil => exact .nil
  | cons operation rest ih =>
      refine List.pairwise_append.mpr ⟨?_, ih _, fun first now second later => ?_⟩
      · cases operation with
        | start => exact .nil
        | stop => exact .nil
        | resolve => exact .nil
        | request rival octets => exact List.pairwise_singleton _ _
        | wait rival timeout happenings => exact pairwise_happeningDeliveries rival _ world
      · exact (operationDeliveries_between world operation first now).2.trans
          (deliveries_between rest _ second later).1

/-! ## Trace -/

/-- The requests that were delivered, and their answers. -/
def callbacks (world : World) : List (List UInt8 × Answer) :=
  world.trace.filterMap Event.callback?

theorem callbacks_deliver (rival : Option Outcome) (request : List UInt8) (world : World) :
    (deliver rival request world).2.callbacks =
      world.callbacks ++ [(request, (deliver rival request world).1)] := by
  cases h : world.listener with
  | none => simp [callbacks, deliver, h, record, Event.callback?]
  | some listener =>
      obtain ⟨log, delivered⟩ := deliver_eq h rival request
      rw [delivered]
      simp [callbacks, Event.callback?]

theorem callbacks_foldl_happen (rival : Option Outcome) (happenings : List Happening)
    (world : World) :
    (happenings.foldl (happen rival) world).callbacks =
      world.callbacks ++ (happeningDeliveries rival happenings world).map
        fun delivery => (delivery.request, delivery.answer) := by
  induction happenings generalizing world with
  | nil => exact (List.append_nil _).symm
  | cons happening rest ih =>
      rw [List.foldl_cons, ih]
      cases happening with
      | request octets =>
          rw [happen, callbacks_deliver, List.append_assoc]
          rfl
      | stop => rfl
      | pause seconds =>
          obtain ⟨clock, paused⟩ := happen_pause rival seconds world
          have same : (happen rival world (.pause seconds)).callbacks = world.callbacks := by
            rw [paused]
            rfl
          rw [same]
          rfl

/-- Waiting delivers requests and leaves the trace alone otherwise. -/
theorem trace_awaitOutcome (rival : Option Outcome) (timeout : Amount)
    (happenings : List Happening) (world : World) :
    (awaitOutcome rival timeout happenings world).2.trace =
      (afterHappenings rival timeout happenings world).trace := by
  simp only [awaitOutcome, Act.bind_apply]
  rcases block_cases rival timeout happenings world with ⟨clock, blocked⟩ | ⟨-, blocked⟩
  · simp only [blocked, Act.get_apply]
    cases (afterHappenings rival timeout happenings world).listener with
    | none => rfl
    | some listener => cases told : listener.waitText? timeout <;> simp only [told] <;> rfl
  · simp only [blocked]

theorem callbacks_perform (world : World) (operation : Operation) :
    (world.perform operation).callbacks =
      world.callbacks ++ (operationDeliveries world operation).map
        fun delivery => (delivery.request, delivery.answer) := by
  cases operation with
  | start bindFails =>
      simp only [perform, startListener, Act.bind_apply, Act.get_apply]
      split
      · simp [callbacks, operationDeliveries]
      · split
        · simp [callbacks, operationDeliveries, Act.bind_apply]
        · simp [callbacks, operationDeliveries, Act.bind_apply, emit, write, record, note,
            takePort, changeListener, Event.callback?]
  | stop => simp [perform, stopListener, callbacks, record, operationDeliveries, changeListener,
      Event.callback?]
  | request rival octets => exact callbacks_deliver rival octets world
  | resolve outcome => exact (List.append_nil _).symm
  | wait rival timeout happenings =>
      simp only [perform, callbacks, trace_awaitOutcome]
      exact callbacks_foldl_happen rival _ world

/-- The trace of a run holds its deliveries, with their answers. -/
theorem callbacks_performAll (operations : List Operation) (world : World) :
    (performAll operations world).callbacks =
      world.callbacks ++ (deliveries operations world).map
        fun delivery => (delivery.request, delivery.answer) := by
  induction operations generalizing world with
  | nil => exact (List.append_nil _).symm
  | cons operation rest ih =>
      have rest' := ih (world.perform operation)
      rw [callbacks_perform, List.append_assoc, ← List.map_append] at rest'
      exact rest'

end World

/-! ## Pages -/

namespace Delivery

variable {delivery : Delivery} {listener : Listener}

theorem hasPage_iff :
    delivery.hasPage = true ↔ ∃ framing page, delivery.answer = .page framing page := by
  unfold hasPage Answer.page?
  cases delivery.answer with
  | page framing page => simp
  | status | dropped | refused => simp

/-- A page goes to a redirect that found no outcome, and says what was recorded then. -/
theorem of_page (h : delivery.world.listener = some listener) {framing : Framing} {page : Page}
    (answered : delivery.answer = .page framing page) :
    ∃ parameters, Request.redirect? delivery.request = some parameters ∧
      Request.framing? delivery.request = some framing ∧
      delivery.world.recorded = none ∧
      delivery.after.recorded = some (Outcome.judge parameters listener.expectedState) ∧
      page = Page.ofOutcome (Outcome.judge parameters listener.expectedState) := by
  obtain ⟨log, delivered⟩ := World.deliver_eq h delivery.rival delivery.request
  rw [answer, delivered] at answered
  rcases listener.receive_cases delivery.rival delivery.request with
    ⟨parameters, framing', redirect, framed, -, fresh, -, page', after'⟩ | ⟨-, noPage, -⟩
  · obtain ⟨rfl, rfl⟩ := Answer.page.inj (page'.symm.trans answered)
    refine ⟨parameters, redirect, framed, ?_, ?_, rfl⟩
    · rw [World.recorded, h, Option.bind_some, fresh]
    · rw [after, delivered, World.recorded, Option.bind_some, after', Listener.outcome_resolve,
        fresh, Option.getD_none]
  · rw [answered] at noPage
    cases noPage

/-- Without a page the listener is as it was, or as the rival left it. -/
theorem of_not_page (h : delivery.world.listener = some listener)
    (unanswered : delivery.answer.page? = none) :
    delivery.after.listener = some listener ∨
      delivery.after.listener = some (listener.overtake delivery.rival) := by
  obtain ⟨log, delivered⟩ := World.deliver_eq h delivery.rival delivery.request
  rcases listener.receive_cases delivery.rival delivery.request with
    ⟨parameters, framing, -, -, -, -, -, page, -⟩ | ⟨-, -, after' | after'⟩
  · rw [← congrArg Prod.fst delivered] at page
    have sent := (congrArg Answer.page? page).symm.trans unanswered
    cases sent
  · rw [after, delivered]
    exact .inl (congrArg some after')
  · rw [after, delivered]
    exact .inr (congrArg some after')

end Delivery

/-! ## Runs -/

namespace World

/-- A world with a listener that nothing was done to yet. -/
def expecting (world : World) (state : String) : World :=
  { world with listener := some (Listener.create state) }

/-- Of the requests of a run at most one gets a page. -/
theorem pages_le_one (operations : List Operation) {world : World} {listener : Listener}
    (h : world.listener = some listener) :
    ((deliveries operations world).filter Delivery.hasPage).length ≤ 1 := by
  have noSecond : ((deliveries operations world).filter Delivery.hasPage).Pairwise
      fun _ _ => False := by
    rw [List.pairwise_filter]
    refine List.Pairwise.imp_of_mem (fun {first second} one two order paged paged' => ?_)
      (pairwise_deliveries operations world)
    obtain ⟨framing, page, answered⟩ := Delivery.hasPage_iff.mp paged
    obtain ⟨framing', page', answered'⟩ := Delivery.hasPage_iff.mp paged'
    obtain ⟨found, has, -⟩ := (deliveries_between operations world first one).1 _ h
    obtain ⟨found', has', -⟩ := (deliveries_between operations world second two).1 _ h
    obtain ⟨_, -, -, -, written, -⟩ := Delivery.of_page has answered
    obtain ⟨_, -, -, empty, -⟩ := Delivery.of_page has' answered'
    rw [order.recorded written] at empty
    cases empty
  match listed : (deliveries operations world).filter Delivery.hasPage with
  | [] => exact Nat.zero_le _
  | [_] => exact Nat.le_refl _
  | first :: second :: rest =>
      rw [listed] at noSecond
      exact (List.rel_of_pairwise_cons noSecond List.mem_cons_self).elim

/-- A wait ends with the recorded outcome, unless its length cannot be had. -/
theorem awaitOutcome_recorded (rival : Option Outcome) (timeout : Amount)
    (happenings : List Happening) {world : World} {listener : Listener}
    (h : world.listener = some listener) :
    match (awaitOutcome rival timeout happenings world).1 with
    | .ok outcome =>
        (awaitOutcome rival timeout happenings world).2.recorded = some outcome
    | .error fault => fault = .overflow ∧ Unwaitable world timeout := by
  obtain ⟨ready, has, -⟩ := afterHappenings_follows rival timeout happenings world listener h
  rcases awaitOutcome_cases rival timeout happenings has with
    ⟨reason, clock, -, ended⟩ | ⟨long, clock, ended⟩
  · rw [ended]
    exact conclude_recorded ready rival reason
  · rw [ended]
    exact ⟨rfl, long⟩

/-- The system refuses a wait that is too long for it, and nothing comes of it. -/
theorem awaitOutcome_of_exceeds (rival : Option Outcome) {timeout : Amount}
    (happenings : List Happening) {world : World} (waits : isDone world = false)
    (long : timeout.exceeds world.longestWait = true) :
    awaitOutcome rival timeout happenings world = (.error .overflow, world) := by
  have refused : block rival timeout happenings world = (.error .overflow, world) := by
    simp [block, Act.bind_apply, waits, long]
  exact Act.bind_of_error refused

/-! ## The longest wait -/

theorem longestWait_deliver (rival : Option Outcome) (request : List UInt8) (world : World) :
    (deliver rival request world).2.longestWait = world.longestWait := by
  cases here : world.listener with
  | none => simp [deliver, here, record]
  | some listener =>
      obtain ⟨log, delivered⟩ := deliver_eq here rival request
      rw [delivered]

theorem longestWait_afterHappenings (rival : Option Outcome) (timeout : Amount)
    (happenings : List Happening) (world : World) :
    (afterHappenings rival timeout happenings world).longestWait = world.longestWait := by
  unfold afterHappenings
  generalize happened timeout happenings world = list
  induction list generalizing world with
  | nil => rfl
  | cons happening rest ih =>
      rw [List.foldl_cons, ih]
      cases happening with
      | request octets => exact longestWait_deliver rival octets world
      | stop => rfl
      | pause seconds =>
          obtain ⟨clock, paused⟩ := happen_pause rival seconds world
          rw [paused]

theorem longestWait_awaitOutcome (rival : Option Outcome) (timeout : Amount)
    (happenings : List Happening) (world : World) :
    (awaitOutcome rival timeout happenings world).2.longestWait = world.longestWait := by
  have after := longestWait_afterHappenings rival timeout happenings world
  simp only [awaitOutcome, Act.bind_apply]
  rcases block_cases rival timeout happenings world with ⟨clock, blocked⟩ | ⟨-, blocked⟩
  · simp only [blocked, Act.get_apply]
    cases (afterHappenings rival timeout happenings world).listener with
    | none => exact after
    | some listener => cases told : listener.waitText? timeout <;> simp only [told] <;> exact after
  · simp only [blocked]
    exact after

/-- What the system can wait for is the same all along. -/
theorem longestWait_performAll (operations : List Operation) (world : World) :
    (performAll operations world).longestWait = world.longestWait := by
  induction operations generalizing world with
  | nil => rfl
  | cons operation rest ih =>
      refine (ih _).trans ?_
      cases operation with
      | start bindFails =>
          simp only [perform, startListener, Act.bind_apply, Act.get_apply]
          split
          · rfl
          · split <;> rfl
      | stop => rfl
      | request rival octets => exact longestWait_deliver rival octets world
      | resolve outcome => rfl
      | wait rival timeout happenings =>
          exact longestWait_awaitOutcome rival timeout happenings world

/-- **One outcome, whoever comes first.**  Over any run on a new listener: a recorded
outcome stays; the deliveries are what is on the trace; at most one of them gets a
page, which is a `GET` for the callback path that found no outcome and left the one
its parameters decide, with status 200 for a success and 400 for a failure (an answer in
HTTP/0.9 tells no status); every other one leaves the listener as it or its rival found
it; and every wait returns what is recorded from then on, unless its length is a whole
number beyond all doubles, or more than the system waits where there is something to wait
for. -/
theorem outcome_written_once (world : World) (state : String) (operations : List Operation) :
    let first := world.expecting state
    let last := performAll operations first
    (∀ before rest, operations = before ++ rest → ∀ outcome,
        (performAll before first).recorded = some outcome → last.recorded = some outcome) ∧
      last.callbacks = first.callbacks ++ (deliveries operations first).map
        (fun delivery => (delivery.request, delivery.answer)) ∧
      ((deliveries operations first).filter Delivery.hasPage).length ≤ 1 ∧
      (∀ delivery ∈ deliveries operations first, ∀ framing page,
        delivery.answer = .page framing page →
        ∃ line target parts,
          Request.method? delivery.request = some "GET".toList ∧
          Request.read delivery.request = .target line framing target ∧
          Url.split target = .ok parts ∧ parts.path = "/callback".toList ∧
          delivery.world.recorded = none ∧
          ∃ outcome, outcome = Outcome.judge (Url.Query.decodePairs parts.query) state ∧
            delivery.after.recorded = some outcome ∧ last.recorded = some outcome ∧
            page = Page.ofOutcome outcome ∧
            (page.status = 200 ∨ page.status = 400) ∧
            (page.status = 200 ↔ outcome.success = true) ∧
            delivery.answer.status? =
              if Request.versionWord delivery.request = "HTTP/0.9".toList then none
              else some page.status) ∧
      (∀ delivery ∈ deliveries operations first,
        (∀ framing page, delivery.answer ≠ .page framing page) →
        ∃ listener, delivery.world.listener = some listener ∧
          (delivery.after.listener = some listener ∨
            delivery.after.listener = some (listener.overtake delivery.rival))) ∧
      ∀ before rival timeout happenings rest,
        operations = before ++ .wait rival timeout happenings :: rest →
        match (awaitOutcome rival timeout happenings (performAll before first)).1 with
        | .ok outcome =>
            (performAll (before ++ [.wait rival timeout happenings]) first).recorded =
                some outcome ∧ last.recorded = some outcome
        | .error fault => fault = .overflow ∧ (timeout.toBinary64? = none ∨
            isDone (performAll before first) = false ∧
              timeout.exceeds world.longestWait = true) := by
  intro first last
  have fresh : first.listener = some (Listener.create state) := rfl
  have kept : ∀ before rest, operations = before ++ rest → ∀ outcome,
      (performAll before first).recorded = some outcome → last.recorded = some outcome := by
    rintro before rest rfl outcome written
    have later := (performAll_follows rest (performAll before first)).recorded written
    rwa [← performAll_append] at later
  refine ⟨kept, callbacks_performAll operations first, pages_le_one operations fresh, ?_, ?_, ?_⟩
  · intro delivery found framing page answered
    obtain ⟨before, after⟩ := deliveries_between operations first delivery found
    obtain ⟨listener, has, expected, -⟩ := before _ fresh
    obtain ⟨parameters, redirect, framed, empty, written, rfl⟩ := Delivery.of_page has answered
    obtain ⟨line, framing', target, parts, hread, hsplit, path, rfl⟩ :=
      Request.redirect?_eq_some_iff.mp redirect
    obtain rfl : framing' = framing :=
      Option.some.inj ((Request.framing?_of_read hread).symm.trans framed)
    obtain ⟨method, spoken⟩ := Request.words_of_read hread
    have state : listener.expectedState = state := expected
    rw [state] at written
    refine ⟨line, target, parts, method, hread, hsplit, path, empty, _, rfl, written,
      after.recorded written, by rw [state], ?_, ?_, ?_⟩
    · exact Page.status_ofOutcome_cases _
    · rw [Page.status_ofOutcome, state]
      split
      · rename_i won
        exact ⟨fun _ => won, fun _ => rfl⟩
      · rename_i lost
        exact ⟨fun same => absurd same (by decide), fun won => absurd won lost⟩
    · rw [answered, spoken, Answer.status?_page]
  · intro delivery found unanswered
    obtain ⟨listener, has, -⟩ := (deliveries_between operations first delivery found).1 _ fresh
    refine ⟨listener, has, Delivery.of_not_page has ?_⟩
    cases answer : delivery.answer with
    | page framing page => exact absurd answer (unanswered framing page)
    | status | dropped | refused => rfl
  · rintro before rival timeout happenings rest split
    obtain ⟨listener, has, -⟩ := performAll_follows before first _ fresh
    have ended := awaitOutcome_recorded rival timeout happenings has
    cases result : (awaitOutcome rival timeout happenings (performAll before first)).1 with
    | error fault =>
        rw [result, Unwaitable, longestWait_performAll] at ended
        exact ended
    | ok outcome =>
        rw [result] at ended
        have now : (performAll (before ++ [.wait rival timeout happenings]) first).recorded =
            some outcome := by
          rw [performAll_append]
          exact ended
        exact ⟨now, kept _ rest (by rw [split, List.append_assoc]; rfl) outcome now⟩

/-- A system that waits for `9223372036` seconds and no more. -/
def boundedWorld : World :=
  { World.quiet (.exactly 1000) (.ofSeed 1) with longestWait := .exactly 9223372036 }

/-- An infinite wait for a listener that runs is refused there, and records nothing; and where
any wait can be had, a wait that is too long to be told fails although an outcome is
recorded. -/
theorem waits_without_outcome :
    (¬ ∀ (world : World) (state : String) (before : List Operation) (rival : Option Outcome)
        (seconds : Binary64) (happenings : List Happening),
        (performAll (before ++ [.wait rival (.real seconds) happenings])
          (world.expecting state)).recorded ≠ none) ∧
      ¬ ∀ (world : World) (state : String) (before : List Operation) (rival : Option Outcome)
        (seconds : Int) (happenings : List Happening), world.longestWait = .infinite false →
        ∃ outcome, (awaitOutcome rival (.whole seconds) happenings
          (performAll before (world.expecting state))).1 = .ok outcome := by
  constructor
  · intro recorded
    have waits : isDone (performAll [.start false] (boundedWorld.expecting "s")) = false := rfl
    have long : (Amount.real (.infinite false)).exceeds (.exactly 9223372036) = true := by
      decide +kernel
    have refused := awaitOutcome_of_exceeds none [] waits long
    refine recorded boundedWorld "s" [.start false] none (.infinite false) [] ?_
    exact congrArg (fun ended => ended.2.recorded) refused
  · intro told
    let before : List Operation := [.resolve (Outcome.ofCode "abc")]
    obtain ⟨outcome, returned⟩ := told (.quiet (Binary64.exactly 1000) (.ofSeed 1)) "s" before
      none (10 ^ 400) [] rfl
    have long : (Amount.whole (10 ^ 400)).toBinary64? = none := by decide +kernel
    have ready : (afterHappenings none (.whole (10 ^ 400)) []
        (performAll before ((World.quiet (Binary64.exactly 1000) (.ofSeed 1)).expecting
          "s"))).listener =
        some ⟨"s", none, .completed, some (Outcome.ofCode "abc"), true⟩ := rfl
    rcases awaitOutcome_cases none (.whole (10 ^ 400)) [] ready with
      ⟨reason, clock, described, -⟩ | ⟨-, clock, raised⟩
    · rw [Listener.waitText?, long] at described
      cases described
    · rw [raised] at returned
      cases returned

end World

end TokenFlow
