/-
# TokenFlow.Proofs.StatusOrder -- the status moves forward until a listener is opened again

A listener is created, listens, and in the end is completed or timed out, as its outcome
says.  `moments` are the worlds that a run goes through, those during a wait among them.
Recording and stopping take the status forward and keep it true to the outcome
(`Listener.Advances`), and so does a start, as long as nothing is recorded yet.  A start
does not ask for that: on a listener that was stopped after its outcome it sets the status
back, for good (`Listener.Lingers`).
-/
import TokenFlow.Proofs.WriteOnce

namespace TokenFlow

set_option autoImplicit false

open TokenFlow.Number TokenFlow.Callback TokenFlow.World

namespace Callback

/-! ## Status -/

namespace Status

/-- How far a login has come. -/
def stage : Status → Nat
  | .created => 0
  | .listening => 1
  | .completed => 2
  | .timedOut => 2

/-- The status stays as it is, or goes on to a later stage. -/
def Precedes (before after : Status) : Prop :=
  before = after ∨ before.stage < after.stage

theorem Precedes.trans {first second third : Status} (one : first.Precedes second)
    (two : second.Precedes third) : first.Precedes third := by
  rcases one with rfl | earlier
  · exact two
  · rcases two with rfl | later
    · exact .inr earlier
    · exact .inr (Nat.lt_trans earlier later)

end Status

namespace Listener

/-- The status tells what is recorded. -/
structure Truthful (listener : Listener) : Prop where
  completed : listener.status = .completed ↔
    ∃ outcome, listener.outcome = some outcome ∧ outcome.errorKind ≠ some .timeout
  timedOut : listener.status = .timedOut ↔
    ∃ outcome, listener.outcome = some outcome ∧ outcome.errorKind = some .timeout

theorem truthful_create (state : String) : (create state).Truthful :=
  ⟨⟨nofun, nofun⟩, ⟨nofun, nofun⟩⟩

theorem Truthful.of_eq {before after : Listener} (truthful : before.Truthful)
    (status : after.status = before.status) (outcome : after.outcome = before.outcome) :
    after.Truthful := by
  constructor
  · rw [status, outcome]
    exact truthful.completed
  · rw [status, outcome]
    exact truthful.timedOut

/-- Without an outcome no terminal status is told. -/
theorem Truthful.stage_le {listener : Listener} (truthful : listener.Truthful)
    (fresh : listener.outcome = none) : listener.status.stage ≤ 1 := by
  cases status : listener.status with
  | created => exact Nat.zero_le 1
  | listening => exact Nat.le_refl 1
  | completed =>
      obtain ⟨outcome, recorded, -⟩ := truthful.completed.mp status
      rw [fresh] at recorded
      cases recorded
  | timedOut =>
      obtain ⟨outcome, recorded, -⟩ := truthful.timedOut.mp status
      rw [fresh] at recorded
      cases recorded

/-- An outcome is told by a terminal status. -/
theorem Truthful.status_ne_listening {listener : Listener} (truthful : listener.Truthful)
    (resolved : listener.outcome ≠ none) : listener.status ≠ .listening := by
  obtain ⟨outcome, recorded⟩ := Option.ne_none_iff_exists'.mp resolved
  by_cases late : outcome.errorKind = some .timeout
  · rw [truthful.timedOut.mpr ⟨outcome, recorded, late⟩]
    exact nofun
  · rw [truthful.completed.mpr ⟨outcome, recorded, late⟩]
    exact nofun

/-- The status stays truthful and does not go back. -/
def Advances (before after : Listener) : Prop :=
  before.Truthful → after.Truthful ∧ before.status.Precedes after.status

/-- A listener that listens in spite of an outcome goes on like that. -/
def Lingers (before after : Listener) : Prop :=
  before.status = .listening → before.outcome ≠ none →
    after.status = .listening ∧ after.outcome = before.outcome

theorem advances_resolve (listener : Listener) (outcome : Outcome) :
    listener.Advances (listener.resolve outcome).2 := by
  intro truthful
  cases recorded : listener.outcome with
  | some first =>
      rw [listener.resolve_of_some recorded]
      exact ⟨truthful, .inl rfl⟩
  | none =>
      rw [listener.resolve_of_none recorded]
      have early := truthful.stage_le recorded
      by_cases late : outcome.errorKind = some .timeout
      · simp only [late, if_true]
        exact ⟨⟨by simp [late], by simp [late]⟩, .inr (Nat.lt_succ_of_le early)⟩
      · simp only [late, if_false]
        exact ⟨⟨by simp [late], by simp [late]⟩, .inr (Nat.lt_succ_of_le early)⟩

theorem advances_start (port : Nat) {listener : Listener} (fresh : listener.outcome = none) :
    listener.Advances (listener.start port) := by
  intro truthful
  refine ⟨⟨by simp [start, fresh], by simp [start, fresh]⟩, ?_⟩
  rcases Nat.lt_or_eq_of_le (truthful.stage_le fresh) with earlier | same
  · exact .inr earlier
  · cases status : listener.status <;> rw [status] at same
    · cases same
    · exact .inl rfl
    · cases same
    · cases same

end Listener

theorem lasting_advances : Lasting Listener.Advances where
  refl _ truthful := ⟨truthful, .inl rfl⟩
  trans one two truthful :=
    have first := one truthful
    have second := two first.1
    ⟨second.1, first.2.trans second.2⟩
  resolve := Listener.advances_resolve
  stop _ truthful := ⟨truthful.of_eq rfl rfl, .inl rfl⟩

theorem lasting_lingers : Lasting Listener.Lingers where
  refl _ open' _ := ⟨open', rfl⟩
  trans one two open' resolved :=
    have first := one open' resolved
    have second := two first.1 (first.2 ▸ resolved)
    ⟨second.1, second.2.trans first.2⟩
  resolve listener outcome open' resolved := by
    obtain ⟨recorded, had⟩ := Option.ne_none_iff_exists'.mp resolved
    rw [listener.resolve_of_some had]
    exact ⟨open', rfl⟩
  stop _ open' _ := ⟨open', rfl⟩

end Callback

/-! ## Moments -/

namespace World

/-- The worlds that a wait goes through. -/
def happeningMoments (rival : Option Outcome) : List Happening → World → List World
  | [], _ => []
  | happening :: rest, world =>
      happen rival world happening :: happeningMoments rival rest (happen rival world happening)

/-- The worlds between the beginning and the end of one operation. -/
def operationMoments (world : World) : Operation → List World
  | .wait rival timeout happenings =>
      happeningMoments rival (happened timeout happenings world) world
  | _ => []

/-- All worlds that a run goes through, from the first to the last. -/
def moments : List Operation → World → List World
  | [], world => [world]
  | operation :: rest, world =>
      world :: (operationMoments world operation ++ moments rest (world.perform operation))

theorem performAll_mem_moments (before rest : List Operation) (world : World) :
    performAll before world ∈ moments (before ++ rest) world := by
  induction before generalizing world with
  | nil =>
      cases rest with
      | nil => exact List.mem_singleton_self world
      | cons operation rest => exact List.mem_cons_self
  | cons operation before ih =>
      exact List.mem_cons_of_mem _ (List.mem_append_right _ (ih (world.perform operation)))

/-- Every start that the run comes to respects the relation. -/
def StartsKeep (relation : Listener → Listener → Prop) (operations : List Operation)
    (world : World) : Prop :=
  ∀ before bindFails rest, operations = before ++ .start bindFails :: rest →
    (performAll before world).Related relation
      ((performAll before world).perform (.start bindFails))

theorem StartsKeep.tail {relation : Listener → Listener → Prop} {operation : Operation}
    {rest : List Operation} {world : World}
    (starts : StartsKeep relation (operation :: rest) world) :
    StartsKeep relation rest (world.perform operation) :=
  fun before bindFails more split =>
    starts (operation :: before) bindFails more (congrArg (operation :: ·) split)

end World

namespace Callback.Lasting

variable {relation : Listener → Listener → Prop} (lasting : Lasting relation)

include lasting

theorem perform {operation : Operation} {rest : List Operation} {world : World}
    (starts : StartsKeep relation (operation :: rest) world) :
    world.Related relation (world.perform operation) := by
  cases operation with
  | start bindFails => exact starts [] bindFails rest rfl
  | stop =>
      exact lasting.related_trans (related_changeListener world lasting.stop)
        (lasting.related_of_listener_eq rfl)
  | request rival octets => exact lasting.deliver rival octets world
  | resolve outcome =>
      exact related_changeListener world fun listener => lasting.resolve listener outcome
  | wait rival timeout happenings => exact lasting.awaitOutcome rival timeout happenings world

theorem happeningMoments_between (rival : Option Outcome) (happenings : List Happening)
    (world : World) :
    ∀ moment ∈ happeningMoments rival happenings world, world.Related relation moment ∧
      moment.Related relation (happenings.foldl (World.happen rival) world) := by
  induction happenings generalizing world with
  | nil => exact List.forall_mem_nil _
  | cons happening rest ih =>
      have first := lasting.happen rival happening world
      intro moment found
      rcases List.mem_cons.mp found with rfl | later
      · exact ⟨first, lasting.foldl_happen rival rest _⟩
      · obtain ⟨before, after⟩ := ih _ moment later
        exact ⟨lasting.related_trans first before, after⟩

theorem pairwise_happeningMoments (rival : Option Outcome) (happenings : List Happening)
    (world : World) :
    (happeningMoments rival happenings world).Pairwise (Related relation) := by
  induction happenings generalizing world with
  | nil => exact .nil
  | cons happening rest ih =>
      refine .cons (fun moment found => ?_) (ih _)
      exact (lasting.happeningMoments_between rival rest _ moment found).1

theorem operationMoments_between (world : World) (operation : Operation) :
    ∀ moment ∈ operationMoments world operation, world.Related relation moment ∧
      moment.Related relation (world.perform operation) := by
  cases operation with
  | wait rival timeout happenings =>
      have ended := lasting.awaitOutcome_of_afterHappenings rival timeout happenings world
      intro moment found
      obtain ⟨before, after⟩ := lasting.happeningMoments_between rival _ world moment found
      exact ⟨before, lasting.related_trans after ended⟩
  | start => exact List.forall_mem_nil _
  | stop => exact List.forall_mem_nil _
  | request => exact List.forall_mem_nil _
  | resolve => exact List.forall_mem_nil _

theorem pairwise_operationMoments (world : World) (operation : Operation) :
    (operationMoments world operation).Pairwise (Related relation) := by
  cases operation with
  | wait rival timeout happenings =>
      exact lasting.pairwise_happeningMoments rival (happened timeout happenings world) world
  | start => exact .nil
  | stop => exact .nil
  | request => exact .nil
  | resolve => exact .nil

theorem related_moments {operations : List Operation} {world : World}
    (starts : StartsKeep relation operations world) :
    ∀ moment ∈ moments operations world, world.Related relation moment := by
  induction operations generalizing world with
  | nil =>
      intro moment found
      obtain rfl := List.mem_singleton.mp found
      exact lasting.related_refl _
  | cons operation rest ih =>
      intro moment found
      rcases List.mem_cons.mp found with rfl | found
      · exact lasting.related_refl _
      · rcases List.mem_append.mp found with now | later
        · exact (lasting.operationMoments_between world operation moment now).1
        · exact lasting.related_trans (lasting.perform starts) (ih starts.tail moment later)

/-- What a run starts with and each of its starts respects, holds from moment to moment. -/
theorem pairwise_moments {operations : List Operation} {world : World}
    (starts : StartsKeep relation operations world) :
    (moments operations world).Pairwise (Related relation) := by
  induction operations generalizing world with
  | nil => exact List.pairwise_singleton _ _
  | cons operation rest ih =>
      refine .cons (fun moment found => ?_) (List.pairwise_append.mpr
        ⟨lasting.pairwise_operationMoments world operation, ih starts.tail, ?_⟩)
      · exact lasting.related_moments starts moment (List.mem_cons_of_mem _ found)
      · intro first now second later
        exact lasting.related_trans (lasting.operationMoments_between world operation first now).2
          (lasting.related_moments starts.tail second later)

end Callback.Lasting

/-! ## Starts -/

namespace World

/-- A start that succeeds although an outcome is recorded. -/
def Reopens (world : World) (bindFails : Bool) : Prop :=
  bindFails = false ∧ ∃ listener, world.listener = some listener ∧
    listener.running = false ∧ listener.outcome ≠ none

/-- A start leaves the listener alone, or it opens one that does not run. -/
theorem start_cases {world : World} {listener : Listener} (here : world.listener = some listener)
    (bindFails : Bool) :
    (listener.running = true ∨ bindFails = true) ∧
        (world.perform (.start bindFails)).listener = some listener ∨
      listener.running = false ∧ bindFails = false ∧
        (world.perform (.start bindFails)).listener = some (listener.start world.nextPort) := by
  simp only [perform, startListener, Act.bind_apply, Act.get_apply, here, Option.any_some]
  cases running : listener.running with
  | true => exact .inl ⟨.inl rfl, rfl⟩
  | false =>
      cases bindFails with
      | true => exact .inl ⟨.inr rfl, rfl⟩
      | false => exact .inr ⟨rfl, rfl, rfl⟩

theorem related_start_of_not_reopens {world : World} {bindFails : Bool}
    (first : ¬ world.Reopens bindFails) :
    world.Related Listener.Advances (world.perform (.start bindFails)) := by
  intro listener here
  rcases start_cases here bindFails with ⟨-, kept⟩ | ⟨idle, binds, opened⟩
  · exact ⟨listener, kept, lasting_advances.refl listener⟩
  · have fresh : listener.outcome = none := Decidable.byContradiction fun resolved =>
      first ⟨binds, listener, here, idle, resolved⟩
    exact ⟨_, opened, Listener.advances_start _ fresh⟩

theorem related_start_lingers (world : World) (bindFails : Bool) :
    world.Related Listener.Lingers (world.perform (.start bindFails)) := by
  intro listener here
  rcases start_cases here bindFails with ⟨-, kept⟩ | ⟨-, -, opened⟩
  · exact ⟨listener, kept, lasting_lingers.refl listener⟩
  · exact ⟨_, opened, fun _ _ => ⟨rfl, rfl⟩⟩

theorem Reopens.opened {world : World} {bindFails : Bool} (reopens : world.Reopens bindFails) :
    ∃ listener, (world.perform (.start bindFails)).listener = some listener ∧
      listener.status = .listening ∧ listener.outcome ≠ none ∧
      listener.outcome = world.recorded := by
  obtain ⟨binds, listener, here, idle, resolved⟩ := reopens
  have told : world.recorded = listener.outcome := by rw [recorded, here, Option.bind_some]
  rcases start_cases here bindFails with ⟨running | fails, -⟩ | ⟨-, -, opened⟩
  · rw [idle] at running
    cases running
  · rw [binds] at fails
    cases fails
  · exact ⟨_, opened, rfl, resolved, told.symm⟩

/-! ## Runs -/

/-- The status only moves forward, and at every moment it tells what is recorded. -/
structure Orderly (moments : List World) : Prop where
  forward : moments.Pairwise
    (Related fun before after => before.status.Precedes after.status)
  truthful : ∀ moment ∈ moments, ∃ listener, moment.listener = some listener ∧ listener.Truthful

theorem orderly_moments {operations : List Operation} {world : World} {listener : Listener}
    (here : world.listener = some listener) (truthful : listener.Truthful)
    (starts : StartsKeep Listener.Advances operations world) :
    Orderly (moments operations world) := by
  have told : ∀ moment ∈ moments operations world,
      ∃ listener, moment.listener = some listener ∧ listener.Truthful := by
    intro moment found
    obtain ⟨later, has, advances⟩ :=
      lasting_advances.related_moments starts moment found listener here
    exact ⟨later, has, (advances truthful).1⟩
  refine ⟨List.Pairwise.imp_of_mem (fun {before after} found _ advance => ?_)
    (lasting_advances.pairwise_moments starts), told⟩
  obtain ⟨_, had, truthful'⟩ := told before found
  intro listener' here'
  obtain rfl := Option.some.inj (had.symm.trans here')
  obtain ⟨later, has, advances⟩ := advance _ here'
  exact ⟨later, has, (advances truthful').2⟩

/-- **The status of a listener moves forward until it is opened again.**  Over any run on a
new listener, the status is of a later stage at a later moment or the same, and tells what
is recorded, exactly when no start of the run opens a listener that has its outcome.  From
such a start on, the listener counts as listening and the outcome stays. -/
theorem orderly_iff_not_reopened (world : World) (state : String)
    (operations : List Operation) :
    let first := world.expecting state
    (Orderly (moments operations first) ↔
        ∀ before bindFails rest, operations = before ++ .start bindFails :: rest →
          ¬ (performAll before first).Reopens bindFails) ∧
      ∀ before bindFails rest, operations = before ++ .start bindFails :: rest →
        (performAll before first).Reopens bindFails →
          ∀ moment ∈ moments rest (performAll (before ++ [.start bindFails]) first),
            ∃ listener, moment.listener = some listener ∧ listener.status = .listening ∧
              listener.outcome = (performAll before first).recorded := by
  intro first
  refine ⟨⟨?_, fun never => ?_⟩, ?_⟩
  · rintro orderly before bindFails rest rfl reopens
    -- the world behind such a start is a moment of the run, and its status is not truthful
    have passed : performAll (before ++ [.start bindFails]) first ∈
        moments (before ++ .start bindFails :: rest) first := by
      have split := performAll_mem_moments (before ++ [.start bindFails]) rest first
      rwa [List.append_assoc] at split
    rw [performAll_append] at passed
    obtain ⟨listener, opened, status, resolved, -⟩ := reopens.opened
    obtain ⟨_, has, truthful⟩ := orderly.truthful _ passed
    obtain rfl := Option.some.inj (opened.symm.trans has)
    exact truthful.status_ne_listening resolved status
  · refine orderly_moments rfl (Listener.truthful_create state) ?_
    intro before bindFails rest split
    exact related_start_of_not_reopens (never before bindFails rest split)
  · intro before bindFails rest _ reopens moment found
    rw [performAll_append] at found
    obtain ⟨listener, opened, status, resolved, told⟩ := reopens.opened
    have starts : StartsKeep Listener.Lingers rest
        ((performAll before first).perform (.start bindFails)) :=
      fun _ bindFails _ _ => related_start_lingers _ bindFails
    obtain ⟨later, has, lingers⟩ :=
      lasting_lingers.related_moments starts moment found listener opened
    obtain ⟨status', outcome⟩ := lingers status resolved
    exact ⟨later, has, status', outcome.trans told⟩

/-- A login that is completed, and then its listener is opened once more. -/
def openedTwice : List Operation :=
  [.start false, .request none (Request.get "/callback?code=abc&state=s"), .stop, .start false]

/-- The listener that is opened once more listens, although its login is completed. -/
theorem status_goes_back :
    ¬ ∀ (world : World) (state : String) (operations : List Operation),
      Orderly (moments operations (world.expecting state)) := by
  intro orderly
  let first := (World.quiet (Binary64.exactly 1000) (.ofSeed 1)).expecting "s"
  have left : (performAll openedTwice first).listener =
      some ⟨"s", some usualPort, .listening, some (Outcome.ofCode "abc"), true⟩ := by
    decide +kernel
  have passed : performAll openedTwice first ∈ moments openedTwice first := by
    have last := performAll_mem_moments openedTwice [] first
    rwa [List.append_nil] at last
  obtain ⟨listener, has, truthful⟩ := (orderly _ "s" openedTwice).truthful _ passed
  obtain rfl := Option.some.inj (left.symm.trans has)
  exact truthful.status_ne_listening nofun rfl

end World

end TokenFlow
