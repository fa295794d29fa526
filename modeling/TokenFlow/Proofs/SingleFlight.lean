/-
# TokenFlow.Proofs.SingleFlight -- many callers, one flow

Any number of callers share what is kept for one key.  A `Scene` says what is kept,
what time it is and where each caller is; a `Step` is one atomic act of one caller, or
of the clock, and the steps of a run come in any order.  Each caller calls once: whoever
calls again is another caller.  A flow is taken from the provider as it is
(`Provider.flow`), in any world at all.

Only the holder of the lock gets beyond `waiting` (`Exclusive`), so flows exclude each
other, and whoever starts one has looked under the lock.  The lock is taken exactly while
somebody holds it (`Run.locked_iff`).  Once a flow has stored a token, everybody who looks
finds it for as long as it lasts (`Settled`): no other flow starts, and all who still come
back bring that token.

The steps are those of the program: `TokenFlow.Proofs.Interleaving` takes a call apart into
its acts and shows that callers who take turns with them move as a scene does.
-/
import Mathlib.Logic.Function.Basic
import Mathlib.Logic.Relation
import TokenFlow.Proofs.Acquisition

namespace TokenFlow

set_option autoImplicit false
set_option linter.unusedSectionVars false

open TokenFlow.Number

/-! ## Callers -/

/-- How far a caller has come. -/
inductive Phase where
  | outside
  /-- It has found no token, and wants the lock. -/
  | waiting
  /-- It has the lock, and has to look again. -/
  | inside
  /-- A flow is under way. -/
  | acquiring
  /-- The flow gave a credential, which is not stored yet. -/
  | acquired (credential : Credential)
  /-- The result is known, and the lock not yet released. -/
  | leaving (result : Except Fault String)
  | finished (result : Except Fault String)

namespace Phase

/-- Whether a caller holds the lock. -/
def Holds : Phase → Prop
  | .inside | .acquiring | .acquired _ | .leaving _ => True
  | .outside | .waiting | .finished _ => False

/-- A caller that brings this token, if it brings anything, and needs no flow. -/
def Serves (value : String) : Phase → Prop
  | .outside | .waiting | .inside => True
  | .acquiring | .acquired _ => False
  | .leaving result | .finished result => result = .ok value

/-- A caller that does not hold the lock and has not come back is yet to look. -/
theorem serves_of_not_holds {phase : Phase} (value : String) (free : ¬ phase.Holds)
    (open' : ∀ result, phase ≠ .finished result) : phase.Serves value := by
  cases phase with
  | outside | waiting => trivial
  | inside | acquiring | acquired | leaving => exact absurd trivial free
  | finished result => exact absurd rfl (open' result)

end Phase

/-- What the callers of one key share, and where they are. -/
structure Scene (ι : Type) where
  credentials : Credentials
  clock : Binary64
  phase : ι → Phase

variable {ι : Type} [DecidableEq ι]

namespace Scene

/-- One caller moves on. -/
def move (scene : Scene ι) (caller : ι) (phase : Phase) : Scene ι :=
  { scene with phase := Function.update scene.phase caller phase }

def setLocked (scene : Scene ι) (locked : Bool) : Scene ι :=
  { scene with credentials := { scene.credentials with locked } }

/-- A caller stores its credential, and has its result. -/
def store (scene : Scene ι) (caller : ι) (credential : Credential) : Scene ι :=
  { scene with credentials := { scene.credentials with token := some credential } }.move caller
    (.leaving (.ok credential.value))

/-- Nobody has called yet. -/
structure Fresh (scene : Scene ι) : Prop where
  unlocked : scene.credentials.locked = false
  outside : ∀ caller, scene.phase caller = .outside

/-! ## Steps -/

/-- One atomic act.  What a flow comes to is up to the world it runs in. -/
inductive Step (provider : ι → Provider) : Scene ι → Scene ι → Prop
  | hit {scene : Scene ι} (caller : ι) {value : String}
      (here : scene.phase caller = .outside)
      (found : scene.credentials.usable? scene.clock (provider caller).buffer = some value) :
      Step provider scene (scene.move caller (.finished (.ok value)))
  | miss {scene : Scene ι} (caller : ι)
      (here : scene.phase caller = .outside)
      (found : scene.credentials.usable? scene.clock (provider caller).buffer = none) :
      Step provider scene (scene.move caller .waiting)
  | lock {scene : Scene ι} (caller : ι)
      (here : scene.phase caller = .waiting)
      (unlocked : scene.credentials.locked = false) :
      Step provider scene ((scene.setLocked true).move caller .inside)
  | hitInside {scene : Scene ι} (caller : ι) {value : String}
      (here : scene.phase caller = .inside)
      (found : scene.credentials.usable? scene.clock (provider caller).buffer = some value) :
      Step provider scene (scene.move caller (.leaving (.ok value)))
  | start {scene : Scene ι} (caller : ι)
      (here : scene.phase caller = .inside)
      (found : scene.credentials.usable? scene.clock (provider caller).buffer = none) :
      Step provider scene (scene.move caller .acquiring)
  | succeed {scene : Scene ι} (caller : ι) {world : World} {credential : Credential}
      {after : Login}
      (here : scene.phase caller = .acquiring)
      (ran : (provider caller).flow ⟨scene.credentials, world⟩ = (.ok credential, after)) :
      Step provider scene
        ({ scene with credentials := after.credentials }.move caller (.acquired credential))
  | fail {scene : Scene ι} (caller : ι) {world : World} {fault : Fault} {after : Login}
      (here : scene.phase caller = .acquiring)
      (ran : (provider caller).flow ⟨scene.credentials, world⟩ = (.error fault, after)) :
      Step provider scene
        ({ scene with credentials := after.credentials }.move caller (.leaving (.error fault)))
  | store {scene : Scene ι} (caller : ι) {credential : Credential}
      (here : scene.phase caller = .acquired credential) :
      Step provider scene (scene.store caller credential)
  | release {scene : Scene ι} (caller : ι) {result : Except Fault String}
      (here : scene.phase caller = .leaving result) :
      Step provider scene ((scene.setLocked false).move caller (.finished result))
  | tick {scene : Scene ι} (clock : Binary64) : Step provider scene { scene with clock }

/-- A run of any length. -/
abbrev Run (provider : ι → Provider) : Scene ι → Scene ι → Prop :=
  Relation.ReflTransGen (Step provider)

/-- A run in which every step is taken while something holds. -/
abbrev RunWhile (holds : Scene ι → Prop) (provider : ι → Provider) : Scene ι → Scene ι → Prop :=
  Relation.ReflTransGen fun scene next => holds scene ∧ Step provider scene next

/-- No caller would take the credential for one that has ended. -/
def Lasts (provider : ι → Provider) (credential : Credential) (scene : Scene ι) : Prop :=
  ∀ caller, credential.isExpired scene.clock (provider caller).buffer = false

variable {provider : ι → Provider} {scene next : Scene ι} {caller other : ι} {phase : Phase}

/-! ## Moving one caller -/

@[simp] theorem phase_move_self : (scene.move caller phase).phase caller = phase :=
  Function.update_self ..

theorem phase_move_of_ne (h : other ≠ caller) :
    (scene.move caller phase).phase other = scene.phase other :=
  Function.update_of_ne h ..

/-- Moving without the lock leaves nobody holding it who did not hold it before. -/
theorem holds_of_holds_move (kept : phase.Holds → (scene.phase caller).Holds)
    (h : ((scene.move caller phase).phase other).Holds) : (scene.phase other).Holds := by
  by_cases same : other = caller
  · subst same
    rw [phase_move_self] at h
    exact kept h
  · rwa [phase_move_of_ne same] at h

/-! ## Exclusion -/

/-- At most one caller holds the lock, and only when it is taken. -/
structure Exclusive (scene : Scene ι) : Prop where
  alone : ∀ {first second : ι}, (scene.phase first).Holds → (scene.phase second).Holds →
    first = second
  locked : ∀ {holder : ι}, (scene.phase holder).Holds → scene.credentials.locked = true

theorem Fresh.exclusive (fresh : scene.Fresh) : scene.Exclusive where
  alone {first _} h _ := by
    rw [fresh.outside first] at h
    exact h.elim
  locked {holder} h := by
    rw [fresh.outside holder] at h
    exact h.elim

/-- A flow leaves the token and the lock alone. -/
theorem flow_outside {provider : Provider} {credentials : Credentials} {world : World}
    {result : Except Fault Credential} {after : Login}
    (ran : provider.flow ⟨credentials, world⟩ = (result, after)) :
    after.credentials.token = credentials.token ∧
      after.credentials.locked = credentials.locked := by
  have kept := provider.flow_keeps ⟨credentials, world⟩
  rw [ran] at kept
  exact Prod.mk.inj kept

namespace Step

/-- What a step does to the lock: it takes it from nobody, or its holder gives it up, or
nobody gets it. -/
theorem lock_cases (step : Step provider scene next) :
    (∃ caller, scene.credentials.locked = false ∧ next.credentials.locked = true ∧
        ∀ other, (next.phase other).Holds → other = caller ∨ (scene.phase other).Holds) ∨
      (∃ caller, (scene.phase caller).Holds ∧
        ∀ other, (next.phase other).Holds → other ≠ caller ∧ (scene.phase other).Holds) ∨
      next.credentials.locked = scene.credentials.locked ∧
        ∀ other, (next.phase other).Holds → (scene.phase other).Holds := by
  cases step with
  | hit caller here found => exact .inr (.inr ⟨rfl, fun _ => holds_of_holds_move False.elim⟩)
  | miss caller here found => exact .inr (.inr ⟨rfl, fun _ => holds_of_holds_move False.elim⟩)
  | lock caller here unlocked =>
      refine .inl ⟨caller, unlocked, rfl, fun other h => ?_⟩
      by_cases same : other = caller
      · exact .inl same
      · rw [phase_move_of_ne same] at h
        exact .inr h
  | hitInside caller here found =>
      exact .inr (.inr ⟨rfl, fun _ => holds_of_holds_move fun _ => here ▸ trivial⟩)
  | start caller here found =>
      exact .inr (.inr ⟨rfl, fun _ => holds_of_holds_move fun _ => here ▸ trivial⟩)
  | succeed caller here ran =>
      exact .inr (.inr ⟨(flow_outside ran).2, fun _ => holds_of_holds_move fun _ => here ▸ trivial⟩)
  | fail caller here ran =>
      exact .inr (.inr ⟨(flow_outside ran).2, fun _ => holds_of_holds_move fun _ => here ▸ trivial⟩)
  | store caller here =>
      exact .inr (.inr ⟨rfl, fun _ => holds_of_holds_move fun _ => here ▸ trivial⟩)
  | release caller here =>
      refine .inr (.inl ⟨caller, here ▸ trivial, fun other h => ?_⟩)
      have apart : other ≠ caller := by
        rintro rfl
        rw [phase_move_self] at h
        exact h
      rw [phase_move_of_ne apart] at h
      exact ⟨apart, h⟩
  | tick clock => exact .inr (.inr ⟨rfl, fun _ => id⟩)

theorem exclusive (step : Step provider scene next) (before : scene.Exclusive) :
    next.Exclusive := by
  rcases step.lock_cases with
    ⟨caller, free, taken, holders⟩ | ⟨caller, held, holders⟩ | ⟨lock, holders⟩
  · -- nobody held the lock before, so the caller is the only one now
    have only {other : ι} (h : (next.phase other).Holds) : other = caller := by
      refine (holders other h).resolve_right fun had => ?_
      rw [before.locked had] at free
      cases free
    exact ⟨fun one two => (only one).trans (only two).symm, fun _ => taken⟩
  · -- the only holder has gone
    have none {other : ι} (h : (next.phase other).Holds) : False :=
      (holders other h).1 (before.alone (holders other h).2 held)
    exact ⟨fun one _ => (none one).elim, fun one => (none one).elim⟩
  · refine ⟨fun one two => before.alone (holders _ one) (holders _ two), fun one => ?_⟩
    rw [lock]
    exact before.locked (holders _ one)

/-- A flow starts in one way only: after a look under the lock that found nothing. -/
theorem start_of_acquiring (step : Step provider scene next)
    (idle : scene.phase caller ≠ .acquiring) (busy : next.phase caller = .acquiring) :
    scene.phase caller = .inside ∧
      scene.credentials.usable? scene.clock (provider caller).buffer = none := by
  -- a caller that is not the one who moves is where it was
  have mover {mover : ι} {phase : Phase} {moved : Scene ι} (stays : moved.phase = scene.phase)
      (busy : (moved.move mover phase).phase caller = .acquiring) :
      caller = mover ∧ phase = .acquiring := by
    by_cases same : caller = mover
    · subst same
      exact ⟨rfl, by rwa [phase_move_self] at busy⟩
    · rw [phase_move_of_ne same, stays] at busy
      exact absurd busy idle
  cases step with
  | start mover' here found =>
      obtain ⟨rfl, -⟩ := mover rfl busy
      exact ⟨here, found⟩
  | hit | miss | lock | hitInside | succeed | fail | store | release =>
      cases (mover rfl busy).2
  | tick clock => exact absurd busy idle

end Step

theorem Run.exclusive (run : Run provider scene next) (before : scene.Exclusive) :
    next.Exclusive := by
  induction run with
  | refl => exact before
  | tail _ step ih => exact step.exclusive ih

/-! ## The lock -/

/-- Somebody holds the lock. -/
def Held (scene : Scene ι) : Prop :=
  ∃ holder, (scene.phase holder).Holds

/-- A lock stays held when a caller moves who does not give it up. -/
theorem Held.move (held : scene.Held) {moved : Scene ι} (stays : moved.phase = scene.phase)
    (keeps : (scene.phase caller).Holds → phase.Holds) : (moved.move caller phase).Held := by
  obtain ⟨holder, holds⟩ := held
  refine ⟨holder, ?_⟩
  by_cases same : holder = caller
  · subst same
    rw [phase_move_self]
    exact keeps holds
  · rwa [phase_move_of_ne same, stays]

/-- A lock that is taken is held by somebody, so it is never left behind. -/
theorem Step.held (step : Step provider scene next)
    (before : scene.credentials.locked = true → scene.Held)
    (locked : next.credentials.locked = true) : next.Held := by
  cases step with
  | hit caller here found => exact (before locked).move rfl fun holds => by rwa [here] at holds
  | miss caller here found => exact (before locked).move rfl fun holds => by rwa [here] at holds
  | lock caller here unlocked =>
      exact ⟨caller, by rw [phase_move_self]; trivial⟩
  | hitInside caller here found => exact (before locked).move rfl fun _ => trivial
  | start caller here found => exact (before locked).move rfl fun _ => trivial
  | succeed caller here ran =>
      exact (before ((flow_outside ran).2.symm.trans locked)).move rfl fun _ => trivial
  | fail caller here ran =>
      exact (before ((flow_outside ran).2.symm.trans locked)).move rfl fun _ => trivial
  | store caller here => exact (before locked).move rfl fun _ => trivial
  | release caller here => cases locked
  | tick clock => exact before locked

theorem Run.held (run : Run provider scene next)
    (before : scene.credentials.locked = true → scene.Held) :
    next.credentials.locked = true → next.Held := by
  induction run with
  | refl => exact before
  | tail _ step ih => exact step.held ih

/-- However many callers there are, the lock is taken exactly while one of them holds it. -/
theorem Run.locked_iff (run : Run provider scene next) (fresh : scene.Fresh) :
    next.credentials.locked = true ↔ next.Held := by
  refine ⟨run.held fun locked => ?_, fun ⟨_, holds⟩ => ?_⟩
  · rw [fresh.unlocked] at locked
    cases locked
  · exact (run.exclusive fresh.exclusive).locked holds

/-- Whoever waits can go on as soon as nobody holds the lock. -/
theorem Run.can_lock (run : Run provider scene next) (fresh : scene.Fresh)
    (waiting : next.phase caller = .waiting) (free : ¬ next.Held) :
    Step provider next ((next.setLocked true).move caller .inside) := by
  refine .lock caller waiting ?_
  rw [← Bool.not_eq_true, run.locked_iff fresh]
  exact free

/-! ## After a token was stored -/

/-- A lasting credential is kept, and everybody but those who had come back before will
bring it. -/
structure Settled (done : ι → Prop) (credential : Credential) (scene : Scene ι) : Prop where
  token : scene.credentials.token = some credential
  serves : ∀ {caller : ι}, ¬ done caller → (scene.phase caller).Serves credential.value
  finished : ∀ {caller : ι}, done caller → ∃ result, scene.phase caller = .finished result

namespace Settled

variable {done : ι → Prop} {credential : Credential}

theorem serves_of_phase (settled : scene.Settled done credential)
    (here : scene.phase caller = phase) (open' : ∀ result, phase ≠ .finished result) :
    phase.Serves credential.value := by
  by_cases early : done caller
  · obtain ⟨result, back⟩ := settled.finished early
    exact absurd (here.symm.trans back) (open' result)
  · rw [← here]
    exact settled.serves early

/-- One caller moves on, and still serves. -/
theorem move (settled : scene.Settled done credential) {moved : Scene ι}
    (kept : moved.credentials.token = scene.credentials.token)
    (stays : moved.phase = scene.phase) {before : Phase} (here : scene.phase caller = before)
    (open' : ∀ result, before ≠ .finished result) (serves : phase.Serves credential.value) :
    (moved.move caller phase).Settled done credential where
  token := kept.trans settled.token
  serves {other} late := by
    by_cases same : other = caller
    · subst same
      rwa [phase_move_self]
    · rw [phase_move_of_ne same, stays]
      exact settled.serves late
  finished {other} early := by
    obtain ⟨result, back⟩ := settled.finished early
    have apart : other ≠ caller := by
      rintro rfl
      exact open' result (here.symm.trans back)
    exact ⟨result, by rw [phase_move_of_ne apart, stays, back]⟩

theorem step (settled : scene.Settled done credential) (lasts : scene.Lasts provider credential)
    (step : Step provider scene next) : next.Settled done credential := by
  -- whoever looks finds the token
  have looks (caller : ι) : scene.credentials.usable? scene.clock (provider caller).buffer =
      some credential.value :=
    Credentials.usable?_of_lasting settled.token (lasts caller)
  have found {caller : ι} {value : String}
      (h : scene.credentials.usable? scene.clock (provider caller).buffer = some value) :
      value = credential.value :=
    Option.some.inj (h.symm.trans (looks caller))
  cases step with
  | hit caller here hit =>
      exact settled.move rfl rfl here (fun _ => nofun) (congrArg _ (found hit))
  | miss caller here missed =>
      rw [looks caller] at missed
      cases missed
  | lock caller here unlocked => exact settled.move rfl rfl here (fun _ => nofun) trivial
  | hitInside caller here hit =>
      exact settled.move rfl rfl here (fun _ => nofun) (congrArg _ (found hit))
  | start caller here missed =>
      rw [looks caller] at missed
      cases missed
  | succeed caller here ran => exact (settled.serves_of_phase here fun _ => nofun).elim
  | fail caller here ran => exact (settled.serves_of_phase here fun _ => nofun).elim
  | store caller here => exact (settled.serves_of_phase here fun _ => nofun).elim
  | release caller here =>
      have serves := settled.serves_of_phase here fun _ => nofun
      exact settled.move rfl rfl here (fun _ => nofun) serves
  | tick clock => exact ⟨settled.token, settled.serves, settled.finished⟩

theorem run (settled : scene.Settled done credential)
    (run : RunWhile (Lasts provider credential) provider scene next) :
    next.Settled done credential := by
  induction run with
  | refl => exact settled
  | tail _ step ih => exact ih.step step.1 step.2

theorem not_acquiring (settled : scene.Settled done credential) (caller : ι) :
    scene.phase caller ≠ .acquiring :=
  fun here => settled.serves_of_phase here fun _ => nofun

end Settled

/-- A store settles what everybody else will find. -/
theorem Exclusive.settled_store (exclusive : scene.Exclusive) {credential : Credential}
    (here : scene.phase caller = .acquired credential) :
    (scene.store caller credential).Settled
      (fun other => ∃ result, (scene.store caller credential).phase other = .finished result)
      credential where
  token := rfl
  serves {other} late := by
    by_cases same : other = caller
    · subst same
      rw [store, phase_move_self]
      rfl
    · refine Phase.serves_of_not_holds _ (fun holds => ?_) fun result back => late ⟨result, back⟩
      rw [store, phase_move_of_ne same] at holds
      exact same (exclusive.alone holds (here ▸ trivial))
  finished := id

/-! ## Single flight -/

/-- In every reachable scene at most one flow is under way, and a flow starts only after
its caller has looked under the lock and found no token that lasts.  After a flow has
stored a token, and for as long as that lasts, no flow starts, and whoever comes back
brings that token. -/
theorem single_flight (provider : ι → Provider) {first scene : Scene ι} (fresh : first.Fresh)
    (run : Run provider first scene) :
    (∀ one two, scene.phase one = .acquiring → scene.phase two = .acquiring → one = two) ∧
      (∀ caller next, Step provider scene next → scene.phase caller ≠ .acquiring →
        next.phase caller = .acquiring →
          scene.phase caller = .inside ∧ scene.credentials.locked = true ∧
            (∀ other, (scene.phase other).Holds → other = caller) ∧
            ∀ credential, scene.credentials.token = some credential →
              credential.isExpired scene.clock
                (match provider caller with
                  | .code _ => Binary64.exactly 30
                  | .delegated _ => Binary64.exactly 0) = true) ∧
      ∀ storer credential, scene.phase storer = .acquired credential →
        ∀ later, RunWhile (Lasts provider credential) provider
            (scene.store storer credential) later →
          (∀ caller, later.phase caller ≠ .acquiring) ∧
            ∀ caller result,
              (∀ early, (scene.store storer credential).phase caller ≠ .finished early) →
                later.phase caller = .finished result → result = .ok credential.value := by
  have exclusive : scene.Exclusive := Run.exclusive run fresh.exclusive
  refine ⟨fun one two h h' => ?_, fun caller next step idle busy => ?_,
    fun storer credential here later onwards => ?_⟩
  · exact exclusive.alone (h ▸ trivial) (h' ▸ trivial)
  · obtain ⟨here, found⟩ := step.start_of_acquiring idle busy
    have holds : (scene.phase caller).Holds := here ▸ trivial
    refine ⟨here, exclusive.locked holds, fun other held => exclusive.alone held holds, ?_⟩
    have ended := Credentials.usable?_eq_none_iff.mp found
    cases kind : provider caller <;> rw [kind] at ended <;> exact ended
  · have settled := (exclusive.settled_store here).run onwards
    refine ⟨settled.not_acquiring, fun caller result late back => ?_⟩
    have serves := settled.serves fun ⟨early, returned⟩ => late early returned
    rwa [back] at serves

/-- One of two equal connections. -/
def connection : Provider :=
  .code ⟨"https://idp.example/authorize", "https://idp.example/token", "client", none, none,
    Callback.defaultTimeout, ProofKey.defaultLength⟩

/-- A world whose token endpoint grants a token for an hour. -/
def granting : World :=
  { World.quiet (Binary64.exactly 0) (Entropy.ofSeed 0) with
    replies := [.response ⟨200, [], Text.Utf8.encode
      "\x7b\"access_token\": \"t\", \"token_type\": \"Bearer\", \"expires_in\": 3600\x7d".toList,
      none⟩] }

/-- The credential of that grant. -/
def granted : Credential := ⟨"t", some (.real (Binary64.exactly 3600))⟩

theorem flow_granting :
    ∃ after, connection.flow ⟨⟨none, some "r", true⟩, granting⟩ = (.ok granted, after) := by
  have value : (connection.flow ⟨⟨none, some "r", true⟩, granting⟩).1.toOption = some granted := by
    decide +kernel
  rcases flown : connection.flow ⟨⟨none, some "r", true⟩, granting⟩ with ⟨fault | credential, after⟩
  · rw [flown] at value
    cases value
  · rw [flown] at value
    cases value
    exact ⟨after, rfl⟩

/-- Two callers find no token; one renews it, and the other finds the new one under the
lock. -/
theorem single_flight_renewal :
    ∃ first scene later : Scene Bool, first.Fresh ∧ Run (fun _ => connection) first scene ∧
      scene.phase false = .acquired granted ∧
      RunWhile (Lasts (fun _ => connection) granted) (fun _ => connection)
        (scene.store false granted) later ∧
      later.phase true = .finished (.ok "t") ∧
      ∀ caller, later.phase caller ≠ .acquiring := by
  obtain ⟨after, flown⟩ := flow_granting
  -- a moment before the end of the token; the clock will stand still
  obtain ⟨clock, unexpired⟩ : ∃ clock, granted.isExpired clock connection.buffer = false :=
    ⟨Binary64.exactly 0, by decide +kernel⟩
  let first : Scene Bool := ⟨⟨none, some "r", false⟩, clock, fun _ => .outside⟩
  have fresh : first.Fresh := ⟨rfl, fun _ => rfl⟩
  let started := ((first.move false .waiting).move true .waiting |>.setLocked true).move false
    .inside |>.move false .acquiring
  have run : Run (fun _ => connection) first started :=
    (((Relation.ReflTransGen.refl.tail (.miss false rfl rfl)).tail (.miss true rfl rfl)).tail
      (.lock false rfl rfl)).tail (.start false rfl rfl)
  have acquired := run.tail (.succeed false rfl flown)
  have lasts {scene : Scene Bool} (now : scene.clock = clock) :
      Lasts (fun _ => connection) granted scene := by
    intro caller
    rwa [now]
  let scene := { started with credentials := after.credentials }.move false (.acquired granted)
  let left := ((scene.store false granted).setLocked false).move false (.finished (.ok "t"))
  let inside := (left.setLocked true).move true .inside
  let leaving := inside.move true (.leaving (.ok "t"))
  let later := (leaving.setLocked false).move true (.finished (.ok "t"))
  have onwards : RunWhile (Lasts (fun _ => connection) granted) (fun _ => connection)
      (scene.store false granted) later :=
    (((Relation.ReflTransGen.refl.tail ⟨lasts rfl, .release false rfl⟩).tail
      ⟨lasts rfl, .lock true rfl rfl⟩).tail
      ⟨lasts rfl, .hitInside true rfl (Credentials.usable?_of_lasting rfl unexpired)⟩).tail
      ⟨lasts rfl, .release true rfl⟩
  obtain ⟨-, -, settled⟩ := single_flight (fun _ => connection) fresh acquired
  exact ⟨first, scene, later, fresh, acquired, rfl, onwards, rfl,
    (settled false granted rfl later onwards).1⟩

end Scene

end TokenFlow
