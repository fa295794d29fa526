/-
# TokenFlow.Proofs.Actions -- what an action does, one step at a time

Every action is a function of a state, and these lemmas say which.  A sequence runs
its second part only when the first one came to a value (`bind_of_ok`,
`bind_of_error`).

An action `Keeps` a part of the state when that part is the same after it, whatever
the action came to; parts that every step keeps are kept by the whole.  It `Gives` values
of a kind when it comes to no others.
-/
import TokenFlow.World.Basic

namespace TokenFlow.Act

set_option autoImplicit false

variable {σ α β γ : Type}

@[simp] theorem get_apply (state : σ) : (get : Act σ σ) state = (.ok state, state) :=
  rfl

@[simp] theorem update_apply (change : σ → σ) (state : σ) :
    update change state = (.ok (), change state) :=
  rfl

@[simp] theorem step_apply (change : σ → α × σ) (state : σ) :
    step change state = (.ok (change state).1, (change state).2) :=
  rfl

@[simp] theorem lift_apply (result : Except Fault α) (state : σ) :
    (lift result : Act σ α) state = (result, state) :=
  rfl

@[simp] theorem raise_apply (fault : Fault) (state : σ) :
    (raise fault : Act σ α) state = (.error fault, state) :=
  rfl

@[simp] theorem fail_apply (failure : Failure) (state : σ) :
    (fail failure : Act σ α) state = (.error (.failure failure), state) :=
  rfl

/-- Turning failures into values does not change what was done. -/
theorem attempt_snd (action : Act σ α) (state : σ) :
    (attempt action state).2 = (action state).2 := by
  unfold attempt
  rcases action state with ⟨fault | value, after⟩
  · cases fault <;> rfl
  · rfl

theorem attempt_of_ok {action : Act σ α} {state after : σ} {value : α}
    (h : action state = (.ok value, after)) :
    attempt action state = (.ok (.ok value), after) := by
  rw [attempt, h]

theorem attempt_of_failure {action : Act σ α} {state after : σ} {failure : Failure}
    (h : action state = (.error (.failure failure), after)) :
    attempt action state = (.ok (.error failure), after) := by
  rw [attempt, h]

/-- A fault that is no failure is not caught. -/
theorem attempt_of_fault {action : Act σ α} {state after : σ} {fault : Fault}
    (h : action state = (.error fault, after)) (fatal : ∀ failure, fault ≠ .failure failure) :
    attempt action state = (.error fault, after) := by
  rw [attempt, h]
  cases fault with
  | failure failure => exact absurd rfl (fatal failure)
  | _ => rfl

theorem map_apply (f : α → β) (action : Act σ α) (state : σ) :
    (f <$> action) state = ((action state).1.map f, (action state).2) := by
  show (action >>= fun value => Pure.pure (f value)) state = _
  rw [bind_apply]
  rcases action state with ⟨fault | value, after⟩ <;> rfl

@[simp] theorem thenAlways_apply (action : Act σ α) (last : σ → σ) (state : σ) :
    thenAlways action last state = ((action state).1, last (action state).2) :=
  rfl

@[simp] theorem mapFault_apply (change : Fault → Fault) (action : Act σ α) (state : σ) :
    mapFault change action state = ((action state).1.mapError change, (action state).2) :=
  rfl

/-! ## Sequences -/

variable {action : Act σ α} {next : α → Act σ β} {state after : σ}

theorem bind_of_ok {value : α} (h : action state = (.ok value, after)) :
    (action >>= next) state = next value after := by
  rw [bind_apply, h]

theorem bind_of_error {fault : Fault} (h : action state = (.error fault, after)) :
    (action >>= next) state = (.error fault, after) := by
  rw [bind_apply, h]

/-- What a sequence comes to is decided behind its first part. -/
theorem bind_congr {other : σ} (h : action state = action other) :
    (action >>= next) state = (action >>= next) other := by
  rw [bind_apply, bind_apply, h]

theorem bind_assoc (action : Act σ α) (next : α → Act σ β) (last : β → Act σ γ) :
    (action >>= next) >>= last = action >>= fun value => next value >>= last := by
  funext state
  simp only [bind_apply]
  rcases action state with ⟨_ | _, _⟩ <;> rfl

/-! ## What an action leaves alone -/

/-- The part of the state is the same after the action, whether it came to a value or not. -/
def Keeps {τ : Type} (part : σ → τ) (action : Act σ α) : Prop :=
  ∀ state, part (action state).2 = part state

namespace Keeps

variable {τ : Type} {part : σ → τ}

theorem pure (value : α) : Keeps part (Pure.pure value : Act σ α) :=
  fun _ => rfl

theorem get : Keeps part (Act.get : Act σ σ) :=
  fun _ => rfl

theorem lift (result : Except Fault α) : Keeps part (Act.lift result : Act σ α) :=
  fun _ => rfl

theorem update {change : σ → σ} (kept : ∀ state, part (change state) = part state) :
    Keeps part (Act.update change) :=
  kept

theorem bind {action : Act σ α} {next : α → Act σ β} (first : Keeps part action)
    (second : ∀ value, Keeps part (next value)) : Keeps part (action >>= next) := by
  intro state
  have kept := first state
  rw [bind_apply]
  rcases ran : action state with ⟨_ | value, middle⟩
  · rwa [ran] at kept
  · rw [ran] at kept
    exact (second value middle).trans kept

theorem map {action : Act σ α} (kept : Keeps part action) (f : α → β) :
    Keeps part (f <$> action) :=
  bind kept fun value => pure (f value)

theorem attempt {action : Act σ α} (kept : Keeps part action) :
    Keeps part (Act.attempt action) := by
  intro state
  rw [attempt_snd]
  exact kept state

/-- What comes after the first part of a sequence does not count. -/
theorem bind_snd (action : Act σ α) {next : α → Act σ β}
    (second : ∀ value, Keeps part (next value)) (state : σ) :
    part ((action >>= next) state).2 = part (action state).2 := by
  rw [bind_apply]
  rcases action state with ⟨_ | value, middle⟩
  · rfl
  · exact second value middle

end Keeps

/-! ## What an action comes to -/

/-- Every value that the action comes to is of this kind. -/
def Gives (holds : α → Prop) (action : Act σ α) : Prop :=
  ∀ state value, (action state).1 = .ok value → holds value

namespace Gives

variable {holds : β → Prop}

theorem anything (action : Act σ α) : Gives (fun _ => True) action :=
  fun _ _ _ => trivial

theorem pure {value : β} (h : holds value) : Gives holds (Pure.pure value : Act σ β) :=
  fun _ _ came => Except.ok.inj came ▸ h

theorem raise (fault : Fault) : Gives holds (Act.raise fault : Act σ β) := by
  intro state value came
  cases came

theorem lift {result : Except Fault β} (h : ∀ value, result = .ok value → holds value) :
    Gives holds (Act.lift result : Act σ β) :=
  fun _ value came => h value came

theorem bind {given : α → Prop} {action : Act σ α} {next : α → Act σ β}
    (first : Gives given action) (second : ∀ value, given value → Gives holds (next value)) :
    Gives holds (action >>= next) := by
  intro state value came
  rcases ran : action state with ⟨fault | middle, after⟩
  · rw [bind_of_error ran] at came
    cases came
  · rw [bind_of_ok ran] at came
    have here : given middle := first state middle (by rw [ran])
    exact second middle here after value came

/-- What comes before the last part of a sequence does not count. -/
theorem bind_snd {action : Act σ α} {next : α → Act σ β}
    (second : ∀ value, Gives holds (next value)) : Gives holds (action >>= next) :=
  bind (anything action) fun value _ => second value

theorem map {given : α → Prop} {action : Act σ α} {f : α → β} (first : Gives given action)
    (image : ∀ value, given value → holds (f value)) : Gives holds (f <$> action) :=
  bind first fun value here => pure (image value here)

/-- Values are not told in other words. -/
theorem mapFault {action : Act σ β} (gives : Gives holds action) (change : Fault → Fault) :
    Gives holds (Act.mapFault change action) := by
  intro state value came
  rw [mapFault_apply] at came
  rcases ran : (action state).1 with fault | given <;> rw [ran] at came
  · cases came
  · exact gives state value (ran.trans came)

end Gives

end TokenFlow.Act
