/-
# TokenFlow.Proofs.Recorded -- what is recorded on a listener stays recorded

Requests, waits, starts and stops all act on the listener of a world.  Starts apart, what
they do to it is made of recorded outcomes and stops, so a relation that these respect
holds between the listeners before and after (`Lasting.happen`, `Lasting.awaitOutcome`).
`Follows` is such a relation, and starts respect it too: the expected state stays, and so
does an outcome, once there is one.

A wait that comes to a value has recorded it.  It comes to none only when its length
is a whole number beyond all doubles, which can neither pass nor be told, or is more
than the system waits at all, and then nothing happens (`awaitOutcome_cases`).
-/
import TokenFlow.Proofs.Actions
import TokenFlow.Proofs.Delivery

namespace TokenFlow

set_option autoImplicit false

open TokenFlow.Number TokenFlow.Callback TokenFlow.World

/-! ## Changes of a listener -/

namespace Callback

/-- A relation between a listener and a later one that recording and stopping respect. -/
structure Lasting (relation : Listener → Listener → Prop) : Prop where
  refl : ∀ listener, relation listener listener
  trans : ∀ {first second third}, relation first second → relation second third →
    relation first third
  resolve : ∀ listener outcome, relation listener (listener.resolve outcome).2
  stop : ∀ listener, relation listener listener.stop

namespace Lasting

variable {relation : Listener → Listener → Prop} (lasting : Lasting relation)

include lasting

theorem overtake (listener : Listener) (rival : Option Outcome) :
    relation listener (listener.overtake rival) := by
  cases rival with
  | none => exact lasting.refl listener
  | some first => exact lasting.resolve listener first

theorem receive (listener : Listener) (rival : Option Outcome) (request : List UInt8) :
    relation listener (listener.receive rival request).2 := by
  rcases listener.receive_cases rival request with
    ⟨parameters, framing, -, -, -, -, -, -, after⟩ | ⟨-, -, after | after⟩
  · rw [after]
    exact lasting.resolve listener _
  · rw [after]
    exact lasting.refl listener
  · rw [after]
    exact lasting.overtake listener rival

theorem conclude (listener : Listener) (rival : Option Outcome) (reason : String) :
    relation listener (listener.conclude rival reason).2 :=
  lasting.trans (lasting.overtake listener rival) (lasting.resolve _ _)

end Lasting

/-- What is kept of a listener, whatever is done to it. -/
def Listener.Kept (before after : Listener) : Prop :=
  after.expectedState = before.expectedState ∧
    ∀ outcome, before.outcome = some outcome → after.outcome = some outcome

theorem lasting_kept : Lasting Listener.Kept where
  refl _ := ⟨rfl, fun _ => id⟩
  trans one two := ⟨two.1.trans one.1, fun outcome had => two.2 outcome (one.2 outcome had)⟩
  resolve listener outcome := by
    cases h : listener.outcome with
    | some recorded =>
        rw [listener.resolve_of_some h]
        exact ⟨rfl, fun _ => id⟩
    | none =>
        rw [listener.resolve_of_none h]
        exact ⟨rfl, fun _ had => nomatch h.symm.trans had⟩
  stop _ := ⟨rfl, fun _ => id⟩

end Callback

namespace World

/-- The listener stays in the world, and the relation holds of it before and after. -/
def Related (relation : Listener → Listener → Prop) (before after : World) : Prop :=
  ∀ listener, before.listener = some listener →
    ∃ listener', after.listener = some listener' ∧ relation listener listener'

theorem related_changeListener {relation : Listener → Listener → Prop}
    {change : Listener → Listener} (world : World)
    (holds : ∀ listener, relation listener (change listener)) :
    world.Related relation (changeListener change world) :=
  fun listener h => ⟨change listener, by simp [changeListener, h], holds listener⟩

/-- A pause is a matter of the clock. -/
theorem happen_pause (rival : Option Outcome) (seconds : Binary64) (world : World) :
    ∃ clock, happen rival world (.pause seconds) = { world with clock } := by
  simp only [happen]
  split
  · exact ⟨world.clock, rfl⟩
  · exact ⟨world.clock.add seconds.clamp, rfl⟩

end World

/-! ## One operation -/

namespace Callback.Lasting

variable {relation : Listener → Listener → Prop} (lasting : Lasting relation)

include lasting

theorem related_of_listener_eq {before after : World} (h : after.listener = before.listener) :
    before.Related relation after :=
  fun listener had => ⟨listener, h.trans had, lasting.refl listener⟩

theorem related_refl (world : World) : world.Related relation world :=
  lasting.related_of_listener_eq rfl

theorem related_trans {first second third : World} (one : first.Related relation second)
    (two : second.Related relation third) : first.Related relation third := by
  intro listener h
  obtain ⟨listener', h', holds⟩ := one listener h
  obtain ⟨listener'', h'', holds'⟩ := two listener' h'
  exact ⟨listener'', h'', lasting.trans holds holds'⟩

theorem deliver (rival : Option Outcome) (request : List UInt8) (world : World) :
    world.Related relation (deliver rival request world).2 := by
  intro listener h
  obtain ⟨log, delivered⟩ := deliver_eq h rival request
  exact ⟨_, by rw [delivered], lasting.receive listener rival request⟩

theorem happen (rival : Option Outcome) (happening : Happening) (world : World) :
    world.Related relation (happen rival world happening) := by
  cases happening with
  | request octets => exact lasting.deliver rival octets world
  | stop => exact related_changeListener world lasting.stop
  | pause seconds =>
      obtain ⟨clock, paused⟩ := happen_pause rival seconds world
      exact lasting.related_of_listener_eq (by rw [paused])

theorem foldl_happen (rival : Option Outcome) (happenings : List Happening) (world : World) :
    world.Related relation (happenings.foldl (World.happen rival) world) := by
  induction happenings generalizing world with
  | nil => exact lasting.related_refl world
  | cons happening happenings ih =>
      exact lasting.related_trans (lasting.happen rival happening world) (ih _)

end Callback.Lasting

namespace World

/-! ## Outcome -/

/-- The outcome of the listener of this world. -/
def recorded (world : World) : Option Outcome :=
  world.listener.bind (·.outcome)

/-- What is kept of the listener of a world. -/
def Follows (before after : World) : Prop :=
  ∀ listener, before.listener = some listener → ∃ listener', after.listener = some listener' ∧
    listener'.expectedState = listener.expectedState ∧
      ∀ outcome, listener.outcome = some outcome → listener'.outcome = some outcome

namespace Follows

theorem refl (world : World) : world.Follows world :=
  fun _ h => ⟨_, h, rfl, fun _ => id⟩

theorem trans {first second third : World} (one : first.Follows second)
    (two : second.Follows third) : first.Follows third :=
  lasting_kept.related_trans one two

theorem of_listener_eq {before after : World} (h : after.listener = before.listener) :
    before.Follows after :=
  fun _ had => ⟨_, h.trans had, rfl, fun _ => id⟩

/-- A recorded outcome stays recorded. -/
theorem recorded {before after : World} (follows : before.Follows after) {outcome : Outcome}
    (h : before.recorded = some outcome) : after.recorded = some outcome := by
  obtain ⟨listener, had, written⟩ := Option.bind_eq_some_iff.mp h
  obtain ⟨listener', has, -, kept⟩ := follows listener had
  exact Option.bind_eq_some_iff.mpr ⟨listener', has, kept _ written⟩

end Follows

theorem resolve_follows (outcome : Outcome) (world : World) :
    world.Follows (changeListener (fun listener => (listener.resolve outcome).2) world) :=
  related_changeListener world fun listener => lasting_kept.resolve listener outcome

theorem deliver_follows (rival : Option Outcome) (request : List UInt8) (world : World) :
    world.Follows (deliver rival request world).2 :=
  lasting_kept.deliver rival request world

theorem stop_follows (world : World) : world.Follows (changeListener Listener.stop world) :=
  related_changeListener world lasting_kept.stop

theorem happen_follows (rival : Option Outcome) (happening : Happening) (world : World) :
    world.Follows (happen rival world happening) :=
  lasting_kept.happen rival happening world

theorem foldl_happen_follows (rival : Option Outcome) (happenings : List Happening)
    (world : World) : world.Follows (happenings.foldl (happen rival) world) :=
  lasting_kept.foldl_happen rival happenings world

theorem startListener_follows (world : World) : world.Follows (startListener world).2 := by
  simp only [startListener, Act.bind_apply, Act.get_apply]
  split
  · exact .refl world
  · split
    · exact .of_listener_eq rfl
    · exact related_changeListener world fun _ => ⟨rfl, fun _ => id⟩

/-! ## Waiting -/

/-- The things that happen during a wait: none when there is nothing to wait for, or no
waiting. -/
def happened (timeout : Amount) (happenings : List Happening) (world : World) :
    List Happening :=
  if isDone world || timeout.exceeds world.longestWait then []
  else world.during timeout happenings

/-- The world that a wait finds when it is over: what happens meanwhile has happened. -/
def afterHappenings (rival : Option Outcome) (timeout : Amount) (happenings : List Happening)
    (world : World) : World :=
  (happened timeout happenings world).foldl (happen rival) world

end World

theorem Callback.Lasting.afterHappenings {relation : Listener → Listener → Prop}
    (lasting : Lasting relation) (rival : Option Outcome) (timeout : Amount)
    (happenings : List Happening) (world : World) :
    world.Related relation (afterHappenings rival timeout happenings world) :=
  lasting.foldl_happen rival _ world

namespace World

theorem afterHappenings_follows (rival : Option Outcome) (timeout : Amount)
    (happenings : List Happening) (world : World) :
    world.Follows (afterHappenings rival timeout happenings world) :=
  lasting_kept.afterHappenings rival timeout happenings world

/-- Blocking lets things happen and then at most moves the clock; it fails only for a
length that cannot pass, or that the system refuses to wait for. -/
theorem block_cases (rival : Option Outcome) (timeout : Amount) (happenings : List Happening)
    (world : World) :
    (∃ clock, block rival timeout happenings world =
        (.ok (), { afterHappenings rival timeout happenings world with clock })) ∨
      (timeout.elapsed? = none ∨
          isDone world = false ∧ timeout.exceeds world.longestWait = true) ∧
        block rival timeout happenings world =
          (.error .overflow, afterHappenings rival timeout happenings world) := by
  unfold block afterHappenings happened
  simp only [Act.bind_apply, Act.get_apply]
  cases done : isDone world with
  | true => exact .inl ⟨world.clock, rfl⟩
  | false =>
      cases refused : timeout.exceeds world.longestWait with
      | true => exact .inr ⟨.inr ⟨rfl, rfl⟩, rfl⟩
      | false =>
          simp only [Bool.false_eq_true, Bool.or_false, if_false, Act.bind_apply,
            Act.update_apply, Act.get_apply]
          generalize (world.during timeout happenings).foldl (happen rival) world = ready
          cases woken : isDone ready with
          | true => exact .inl ⟨ready.clock, rfl⟩
          | false =>
              simp only [Bool.false_eq_true, if_false, expire, deadline?]
              cases timeout.elapsed? with
              | some seconds => exact .inl ⟨_, rfl⟩
              | none => exact .inr ⟨.inl rfl, rfl⟩

/-- A length that cannot pass cannot be told either. -/
theorem toBinary64?_of_elapsed? {timeout : Amount} (h : timeout.elapsed? = none) :
    timeout.toBinary64? = none := by
  cases timeout with
  | real x => cases h
  | whole n =>
      rcases Int.le_total 0 n with positive | negative
      · rwa [Amount.elapsed?, Int.max_eq_left positive] at h
      · rw [Amount.elapsed?, Int.max_eq_right negative] at h
        have zero : Binary64.ofInt? 0 ≠ none := by decide +kernel
        exact absurd h zero

/-- The end of a wait is recorded: it is the outcome that was there, or the timeout. -/
theorem conclude_recorded (listener : Listener) (rival : Option Outcome) (reason : String) :
    (listener.conclude rival reason).2.outcome = some (listener.conclude rival reason).1 := by
  simp only [Listener.conclude, Listener.outcome_resolve, Option.getD_some]

theorem conclude_keeps (listener : Listener) (rival : Option Outcome) (reason : String) :
    (listener.conclude rival reason).2.expectedState = listener.expectedState ∧
      ∀ outcome, listener.outcome = some outcome →
        (listener.conclude rival reason).2.outcome = some outcome :=
  lasting_kept.conclude listener rival reason

/-- A wait of this length cannot be had: it is a whole number beyond all doubles, or longer
than the system waits, and there is something to wait for. -/
def Unwaitable (world : World) (timeout : Amount) : Prop :=
  timeout.toBinary64? = none ∨ isDone world = false ∧ timeout.exceeds world.longestWait = true

/-- A wait returns what is recorded when it is over, or it raises because its length
cannot be had. -/
theorem awaitOutcome_cases (rival : Option Outcome) (timeout : Amount)
    (happenings : List Happening) {world : World} {listener : Listener}
    (h : (afterHappenings rival timeout happenings world).listener = some listener) :
    (∃ reason clock, listener.waitText? timeout = some reason ∧
        awaitOutcome rival timeout happenings world =
          (.ok (listener.conclude rival reason).1,
            { afterHappenings rival timeout happenings world with
              clock, listener := some (listener.conclude rival reason).2 })) ∨
      Unwaitable world timeout ∧
        ∃ clock, awaitOutcome rival timeout happenings world =
          (.error .overflow, { afterHappenings rival timeout happenings world with clock }) := by
  simp only [awaitOutcome, Act.bind_apply]
  rcases block_cases rival timeout happenings world with ⟨clock, blocked⟩ | ⟨long, blocked⟩
  · simp only [blocked, Act.get_apply, h]
    cases told : listener.waitText? timeout with
    | some reason => exact .inl ⟨reason, clock, rfl, rfl⟩
    | none =>
        refine .inr ⟨.inl ?_, clock, rfl⟩
        simp only [Listener.waitText?] at told
        split at told
        · cases told
        · exact Option.map_eq_none_iff.mp told
  · simp only [blocked]
    exact .inr ⟨long.imp_left toBinary64?_of_elapsed?, _, rfl⟩

end World

namespace Callback.Lasting

variable {relation : Listener → Listener → Prop} (lasting : Lasting relation)

include lasting

/-- The end of a wait adds to what happened meanwhile. -/
theorem awaitOutcome_of_afterHappenings (rival : Option Outcome) (timeout : Amount)
    (happenings : List Happening) (world : World) :
    (World.afterHappenings rival timeout happenings world).Related relation
      (World.awaitOutcome rival timeout happenings world).2 := by
  intro ready has
  rcases awaitOutcome_cases rival timeout happenings has with
    ⟨reason, clock, -, ended⟩ | ⟨-, clock, ended⟩
  · exact ⟨_, by rw [ended], lasting.conclude ready rival reason⟩
  · exact ⟨ready, by rw [ended]; exact has, lasting.refl ready⟩

theorem awaitOutcome (rival : Option Outcome) (timeout : Amount) (happenings : List Happening)
    (world : World) :
    world.Related relation (World.awaitOutcome rival timeout happenings world).2 :=
  lasting.related_trans (lasting.afterHappenings rival timeout happenings world)
    (lasting.awaitOutcome_of_afterHappenings rival timeout happenings world)

end Callback.Lasting

theorem World.awaitOutcome_follows (rival : Option Outcome) (timeout : Amount)
    (happenings : List Happening) (world : World) :
    world.Follows (awaitOutcome rival timeout happenings world).2 :=
  lasting_kept.awaitOutcome rival timeout happenings world

end TokenFlow
