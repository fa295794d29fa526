/-
# TokenFlow.Proofs.Interleaving -- the steps of a scene are the acts of the program

What is left of a call is a `Routine`: a look at what is kept, the lock, a flow, the storing of
its credential, and the release of the lock, each an act of its own.  A call performed without
a break is `Provider.getToken`, whatever it finds (`perform_routine`): this is where it matters
that the flow runs with the lock taken and that the lock is given up in any case.

A `Pool` lets callers act in any order, one act at a time.  The only act that may have to wait
is to take the lock.  A pool of such calls moves exactly as a scene does (`step_pool_iff`), so
what holds of scenes holds of callers of the program: no two flows are under way at once, and
the lock is free again when everybody has come back (`calls_exclude`).
-/
import TokenFlow.Proofs.SingleFlight

namespace TokenFlow

set_option autoImplicit false
set_option linter.unusedSectionVars false

open TokenFlow.Number

/-! ## Routines -/

/-- What is left of a call, one atomic act after another. -/
inductive Routine where
  | done (result : Except Fault String)
  | look (buffer : Binary64) (next : Option String → Routine)
  | lock (rest : Routine)
  | flow (action : LoginAct Credential) (next : Except Fault Credential → Routine)
  | store (credential : Credential) (rest : Routine)
  | release (rest : Routine)

namespace Routine

/-- The next act at a moment: what is left after it, and what it makes of the login.  There is
none at the end, and none while somebody else has the lock that is wanted. -/
def next? (clock : Binary64) : Routine → Login → Option (Routine × Login)
  | .done _, _ => none
  | .look buffer next, login => some (next (login.credentials.usable? clock buffer), login)
  | .lock rest, login =>
      if login.credentials.locked then none else some (rest, login.setLocked true)
  | .flow action next, login => some (next (action login).1, (action login).2)
  | .store credential rest, login =>
      some (rest, { login with
        credentials := { login.credentials with token := some credential } })
  | .release rest, login => some (rest, login.setLocked false)

/-- All acts without a break. -/
def perform : Routine → LoginAct String
  | .done result => Act.lift result
  | .look buffer next => fun login =>
      (next (login.credentials.usable? login.world.clock buffer)).perform login
  | .lock rest => fun login => rest.perform (login.setLocked true)
  | .flow action next => fun login => (next (action login).1).perform (action login).2
  | .store credential rest => fun login =>
      rest.perform { login with
        credentials := { login.credentials with token := some credential } }
  | .release rest => fun login => rest.perform (login.setLocked false)

/-- Whether a flow comes next. -/
def Flows : Routine → Prop
  | .flow _ _ => True
  | _ => False

/-- One act after another, of a caller that nobody disturbs. -/
abbrev Runs : Routine × Login → Routine × Login → Prop :=
  Relation.ReflTransGen fun now later => now.1.next? now.2.world.clock now.2 = some later

/-- An act does what is to be done first. -/
theorem perform_of_next? {routine rest : Routine} {login after : Login}
    (acts : routine.next? login.world.clock login = some (rest, after)) :
    routine.perform login = rest.perform after := by
  cases routine with
  | done result => cases acts
  | look buffer next =>
      obtain ⟨rfl, rfl⟩ := Prod.mk.inj (Option.some.inj acts)
      rfl
  | lock rest' =>
      rw [next?] at acts
      split at acts
      · cases acts
      · obtain ⟨rfl, rfl⟩ := Prod.mk.inj (Option.some.inj acts)
        rfl
  | flow action next =>
      obtain ⟨rfl, rfl⟩ := Prod.mk.inj (Option.some.inj acts)
      rfl
  | store credential rest' =>
      obtain ⟨rfl, rfl⟩ := Prod.mk.inj (Option.some.inj acts)
      rfl
  | release rest' =>
      obtain ⟨rfl, rfl⟩ := Prod.mk.inj (Option.some.inj acts)
      rfl

theorem Runs.perform {now later : Routine × Login} (runs : Runs now later) :
    now.1.perform now.2 = later.1.perform later.2 := by
  induction runs with
  | refl => rfl
  | tail _ acts ih => exact ih.trans (perform_of_next? acts)

end Routine

/-! ## The routine of a call -/

/-- What is left of the call of a caller that has come so far. -/
def Phase.rest (provider : Provider) : Phase → Routine :=
  let leaving (result : Except Fault String) : Routine := .release (.done result)
  let acquired (credential : Credential) : Routine :=
    .store credential (leaving (.ok credential.value))
  let acquiring : Routine := .flow provider.flow fun
    | .ok credential => acquired credential
    | .error fault => leaving (.error fault)
  let inside : Routine := .look provider.buffer fun
    | some value => leaving (.ok value)
    | none => acquiring
  let waiting : Routine := .lock inside
  let outside : Routine := .look provider.buffer fun
    | some value => .done (.ok value)
    | none => waiting
  fun
    | .outside => outside
    | .waiting => waiting
    | .inside => inside
    | .acquiring => acquiring
    | .acquired credential => acquired credential
    | .leaving result => leaving result
    | .finished result => .done result

theorem Phase.eq_acquiring_of_flows {provider : Provider} {phase : Phase}
    (flows : (phase.rest provider).Flows) : phase = .acquiring := by
  cases phase with
  | acquiring => rfl
  | outside | waiting | inside | acquired | leaving | finished => exact flows.elim

theorem Phase.not_holds_of_done {provider : Provider} {phase : Phase}
    {result : Except Fault String} (done : phase.rest provider = .done result) :
    ¬ phase.Holds := by
  cases phase with
  | finished result => exact id
  | outside | waiting | inside | acquiring | acquired | leaving => cases done

namespace Provider

/-- A call from its beginning. -/
def routine (provider : Provider) : Routine :=
  Phase.rest provider .outside

/-- **A call without a break is the program's.** -/
theorem perform_routine (provider : Provider) : provider.routine.perform = provider.getToken := by
  funext login
  cases look : login.credentials.usable? login.world.clock provider.buffer with
  | some value =>
      rw [getToken_of_usable look]
      simp only [routine, Phase.rest, Routine.perform, look]
      rfl
  | none =>
      have again : (login.setLocked true).credentials.usable? (login.setLocked true).world.clock
          provider.buffer = none := look
      rw [getToken_of_none look, acquire_eq]
      simp only [routine, Phase.rest, Routine.perform, look, again]
      rcases flown : provider.flow (login.setLocked true) with ⟨fault | credential, after⟩
      · rw [Act.bind_of_error flown]
        rfl
      · rw [Act.bind_of_ok flown]
        rfl

/-- A caller that finds no token and the lock taken does not come back: its second act would
be to take the lock. -/
theorem usable?_of_runs {provider : Provider} {login after : Login}
    {result : Except Fault String}
    (runs : Routine.Runs (provider.routine, login) (.done result, after))
    (locked : login.credentials.locked = true) :
    login.credentials.usable? login.world.clock provider.buffer ≠ none := by
  intro missed
  obtain same | ⟨waiting, looks, runs⟩ := runs.cases_head
  · cases same
  · simp only [routine, Phase.rest, Routine.next?, missed, Option.some.injEq] at looks
    subst looks
    obtain same | ⟨inside, locks, -⟩ := runs.cases_head
    · cases same
    · simp [Routine.next?, locked] at locks

/-- A caller that finds no token comes to its flow when the lock is free. -/
theorem runs_to_acquiring {provider : Provider} {login : Login}
    (missed : login.credentials.usable? login.world.clock provider.buffer = none)
    (free : login.credentials.locked = false) :
    Routine.Runs (provider.routine, login)
      (Phase.rest provider .acquiring, login.setLocked true) := by
  have again : (login.setLocked true).credentials.usable?
      (login.setLocked true).world.clock provider.buffer = none := missed
  have waiting : Routine.Runs (provider.routine, login)
      (Phase.rest provider .waiting, login) :=
    .single (by simp only [routine, Phase.rest, Routine.next?, missed])
  have inside : Routine.Runs (provider.routine, login)
      (Phase.rest provider .inside, login.setLocked true) :=
    waiting.tail (by simp only [Phase.rest, Routine.next?, free, Bool.false_eq_true, if_false])
  exact inside.tail (by simp only [Phase.rest, Routine.next?, again])

/-- A flow is followed by the storing of its credential, if it has one, and the release. -/
theorem runs_from_acquiring {provider : Provider} {login after : Login}
    {flown : Except Fault Credential} (flows : provider.flow login = (flown, after)) :
    Routine.Runs (Phase.rest provider .acquiring, login)
      (.done (flown.map Credential.value),
        match flown with
        | .error _ => after.setLocked false
        | .ok credential =>
            Login.setLocked false { after with
              credentials := { after.credentials with token := some credential } }) := by
  cases flown with
  | error fault =>
      have leaving : Routine.Runs (Phase.rest provider .acquiring, login)
          (Phase.rest provider (.leaving (.error fault)), after) :=
        .single (by simp only [Phase.rest, Routine.next?, flows])
      exact leaving.tail rfl
  | ok credential =>
      have acquired : Routine.Runs (Phase.rest provider .acquiring, login)
          (Phase.rest provider (.acquired credential), after) :=
        .single (by simp only [Phase.rest, Routine.next?, flows])
      exact (acquired.tail rfl).tail rfl

/-- A caller that nobody disturbs comes back with what the program comes to, unless it wants
the lock and somebody has it: then it does not come back. -/
theorem getToken_iff_runs {provider : Provider} {login after : Login}
    {result : Except Fault String} :
    Routine.Runs (provider.routine, login) (.done result, after) ↔
      (login.credentials.locked = true →
        login.credentials.usable? login.world.clock provider.buffer ≠ none) ∧
      provider.getToken login = (result, after) := by
  constructor
  · intro runs
    refine ⟨usable?_of_runs runs, ?_⟩
    rw [← provider.perform_routine]
    exact runs.perform
  · rintro ⟨undisturbed, called⟩
    cases look : login.credentials.usable? login.world.clock provider.buffer with
    | some value =>
        obtain ⟨rfl, rfl⟩ := Prod.mk.inj ((getToken_of_usable look).symm.trans called)
        exact .single (by simp only [routine, Phase.rest, Routine.next?, look])
    | none =>
        have free : login.credentials.locked = false :=
          Bool.eq_false_iff.mpr fun locked => undisturbed locked look
        rw [getToken_of_none look, acquire_eq] at called
        rcases flown : provider.flow (login.setLocked true) with ⟨fault | credential, between⟩
        · rw [Act.bind_of_error flown] at called
          obtain ⟨rfl, rfl⟩ := Prod.mk.inj called
          exact (runs_to_acquiring look free).trans (runs_from_acquiring flown)
        · rw [Act.bind_of_ok flown] at called
          obtain ⟨rfl, rfl⟩ := Prod.mk.inj called
          exact (runs_to_acquiring look free).trans (runs_from_acquiring flown)

end Provider

/-! ## Pools -/

variable {ι : Type} [DecidableEq ι]

/-- Callers at work for one key: what is kept, the time, and what is left of each call. -/
structure Pool (ι : Type) where
  credentials : Credentials
  clock : Binary64
  left : ι → Routine

namespace Pool

/-- One act of one caller, in any world at all, or the clock moves. -/
inductive Step : Pool ι → Pool ι → Prop
  | act {pool : Pool ι} (caller : ι) {world : World} {rest : Routine} {after : Login}
      (acts : (pool.left caller).next? pool.clock ⟨pool.credentials, world⟩ =
        some (rest, after)) :
      Step pool ⟨after.credentials, pool.clock, Function.update pool.left caller rest⟩
  | tick {pool : Pool ι} (clock : Binary64) : Step pool { pool with clock }

abbrev Run : Pool ι → Pool ι → Prop :=
  Relation.ReflTransGen Step

/-- Everybody is about to call. -/
def calling (provider : ι → Provider) (credentials : Credentials) (clock : Binary64) : Pool ι :=
  ⟨credentials, clock, fun caller => (provider caller).routine⟩

end Pool

namespace Scene

variable {provider : ι → Provider} {scene next : Scene ι}

/-- The callers of a scene, by what is left of their calls. -/
def pool (provider : ι → Provider) (scene : Scene ι) : Pool ι :=
  ⟨scene.credentials, scene.clock, fun caller => (scene.phase caller).rest (provider caller)⟩

theorem pool_move (caller : ι) (phase : Phase) :
    (scene.move caller phase).pool provider =
      ⟨scene.credentials, scene.clock, Function.update (scene.pool provider).left caller
        (phase.rest (provider caller))⟩ :=
  congrArg (Pool.mk scene.credentials scene.clock) (funext fun other =>
    Function.apply_update (fun caller phase => Phase.rest (provider caller) phase)
      scene.phase caller phase other)

/-- A caller that can act takes a step of the scene. -/
theorem exists_step_of_next? {caller : ι} {world : World} {rest : Routine} {after : Login}
    (acts : ((scene.phase caller).rest (provider caller)).next? scene.clock
      ⟨scene.credentials, world⟩ = some (rest, after)) :
    ∃ phase, Step provider scene
        ({ scene with credentials := after.credentials }.move caller phase) ∧
      phase.rest (provider caller) = rest := by
  cases here : scene.phase caller with
  | outside =>
      rw [here] at acts
      obtain ⟨rfl, rfl⟩ := Prod.mk.inj (Option.some.inj acts)
      cases look : scene.credentials.usable? scene.clock (provider caller).buffer with
      | some value => exact ⟨_, .hit caller here look, rfl⟩
      | none => exact ⟨_, .miss caller here look, rfl⟩
  | waiting =>
      rw [here] at acts
      cases taken : scene.credentials.locked with
      | true => simp [Phase.rest, Routine.next?, taken] at acts
      | false =>
          simp only [Phase.rest, Routine.next?, taken, Bool.false_eq_true, if_false,
            Option.some.injEq, Prod.mk.injEq] at acts
          obtain ⟨rfl, rfl⟩ := acts
          exact ⟨.inside, .lock caller here taken, rfl⟩
  | inside =>
      rw [here] at acts
      obtain ⟨rfl, rfl⟩ := Prod.mk.inj (Option.some.inj acts)
      cases look : scene.credentials.usable? scene.clock (provider caller).buffer with
      | some value => exact ⟨_, .hitInside caller here look, rfl⟩
      | none => exact ⟨_, .start caller here look, rfl⟩
  | acquiring =>
      rw [here] at acts
      obtain ⟨rfl, rfl⟩ := Prod.mk.inj (Option.some.inj acts)
      rcases ran : (provider caller).flow ⟨scene.credentials, world⟩ with
        ⟨fault | credential, left⟩
      · exact ⟨_, .fail caller here ran, rfl⟩
      · exact ⟨_, .succeed caller here ran, rfl⟩
  | acquired credential =>
      rw [here] at acts
      obtain ⟨rfl, rfl⟩ := Prod.mk.inj (Option.some.inj acts)
      exact ⟨_, .store caller here, rfl⟩
  | leaving result =>
      rw [here] at acts
      obtain ⟨rfl, rfl⟩ := Prod.mk.inj (Option.some.inj acts)
      exact ⟨_, .release caller here, rfl⟩
  | finished result =>
      rw [here] at acts
      cases acts

/-- A caller that takes a step of the scene acts. -/
theorem step_pool_of_next? {caller : ι} {before phase : Phase} (world : World) (after : Login)
    (here : scene.phase caller = before)
    (acts : (before.rest (provider caller)).next? scene.clock ⟨scene.credentials, world⟩ =
      some (phase.rest (provider caller), after)) :
    Pool.Step (scene.pool provider)
      (({ scene with credentials := after.credentials }.move caller phase).pool provider) := by
  rw [pool_move]
  subst here
  exact .act caller acts

/-- **A pool of calls moves as a scene does.** -/
theorem step_pool_iff {moved : Pool ι} :
    Pool.Step (scene.pool provider) moved ↔
      ∃ next, Step provider scene next ∧ next.pool provider = moved := by
  constructor
  · intro step
    cases step with
    | act caller acts =>
        obtain ⟨phase, step, rfl⟩ := exists_step_of_next? acts
        exact ⟨_, step, pool_move caller phase⟩
    | tick clock => exact ⟨_, .tick clock, rfl⟩
  · rintro ⟨next, step, rfl⟩
    -- the world matters to a flow only
    let idle : Login := ⟨scene.credentials, .quiet scene.clock (.ofOctets [])⟩
    have looked {caller : ι} {before phase : Phase} (here : scene.phase caller = before)
        (looks : (before.rest (provider caller)).next? scene.clock idle =
          some (phase.rest (provider caller), idle)) :
        Pool.Step (scene.pool provider) ((scene.move caller phase).pool provider) :=
      step_pool_of_next? idle.world idle here looks
    cases step with
    | hit caller here found =>
        exact looked here (by simp only [Phase.rest, Routine.next?, idle, found])
    | miss caller here found =>
        exact looked here (by simp only [Phase.rest, Routine.next?, idle, found])
    | lock caller here unlocked =>
        refine step_pool_of_next? idle.world (idle.setLocked true) here ?_
        simp only [Phase.rest, Routine.next?, unlocked, Bool.false_eq_true, if_false]
        rfl
    | hitInside caller here found =>
        exact looked here (by simp only [Phase.rest, Routine.next?, idle, found])
    | start caller here found =>
        exact looked here (by simp only [Phase.rest, Routine.next?, idle, found])
    | @succeed caller world credential after here ran =>
        exact step_pool_of_next? world after here (by simp only [Phase.rest, Routine.next?, ran])
    | @fail caller world fault after here ran =>
        exact step_pool_of_next? world after here (by simp only [Phase.rest, Routine.next?, ran])
    | @store caller credential here =>
        exact step_pool_of_next? idle.world
          { idle with credentials := { idle.credentials with token := some credential } } here rfl
    | release caller here =>
        exact step_pool_of_next? idle.world (idle.setLocked false) here rfl
    | tick clock => exact .tick clock

/-- So do whole runs. -/
theorem run_pool_iff {moved : Pool ι} :
    Pool.Run (scene.pool provider) moved ↔
      ∃ next, Run provider scene next ∧ next.pool provider = moved := by
  constructor
  · intro run
    induction run with
    | refl => exact ⟨scene, .refl, rfl⟩
    | tail _ step ih =>
        obtain ⟨next, moves, rfl⟩ := ih
        obtain ⟨last, moved, rfl⟩ := step_pool_iff.mp step
        exact ⟨last, moves.tail moved, rfl⟩
  · rintro ⟨next, run, rfl⟩
    induction run with
    | refl => exact .refl
    | tail _ step ih => exact ih.tail (step_pool_iff.mpr ⟨_, step, rfl⟩)

end Scene

namespace Pool

/-- **Calls of the program exclude each other.**  Everybody is about to make a call, which
without a break is the program's.  In whatever order they act, at most one of them has its flow
ahead of everything else, and has the lock then; and when all have come back the lock is
free. -/
theorem calls_exclude (provider : ι → Provider) {credentials : Credentials} {clock : Binary64}
    (free : credentials.locked = false) {pool : Pool ι}
    (run : Run (calling provider credentials clock) pool) :
    (∀ caller, ((calling provider credentials clock).left caller).perform =
        (provider caller).getToken) ∧
      (∀ one two, (pool.left one).Flows → (pool.left two).Flows → one = two) ∧
      (∀ caller, (pool.left caller).Flows → pool.credentials.locked = true) ∧
      ((∀ caller, ∃ result, pool.left caller = .done result) →
        pool.credentials.locked = false) := by
  let first : Scene ι := ⟨credentials, clock, fun _ => .outside⟩
  have fresh : first.Fresh := ⟨free, fun _ => rfl⟩
  have begun : Run (first.pool provider) pool := run
  obtain ⟨scene, moves, rfl⟩ := Scene.run_pool_iff.mp begun
  have exclusive : scene.Exclusive := Scene.Run.exclusive moves fresh.exclusive
  have holds {caller : ι} (flows : ((scene.pool provider).left caller).Flows) :
      (scene.phase caller).Holds := by
    rw [Phase.eq_acquiring_of_flows flows]
    trivial
  refine ⟨fun caller => (provider caller).perform_routine,
    fun one two flows flows' => exclusive.alone (holds flows) (holds flows'),
    fun caller flows => exclusive.locked (holds flows), fun back => ?_⟩
  refine Bool.eq_false_iff.mpr fun locked => ?_
  obtain ⟨holder, holding⟩ := (Scene.Run.locked_iff moves fresh).mp locked
  obtain ⟨result, done⟩ := back holder
  exact Phase.not_holds_of_done done holding

end Pool

end TokenFlow
