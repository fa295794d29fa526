/-
# TokenFlow.Proofs.Acquisition -- a call is a look, a lock, another look, and a flow

Both kinds of provider go about a call in the same way, and differ in the `flow`
that gets a new credential: renewal or a login with a browser for one, a session of
the companion service for the other.  `getToken_of_usable` and `getToken_of_none`
are the whole of a call that nobody disturbs; `acquire_eq` takes the storing of the
credential apart from getting it.  A flow never touches the kept token or the lock
(`flow_keeps`): only its caller does.
-/
import TokenFlow.Proofs.Actions
import TokenFlow.Provider

namespace TokenFlow

set_option autoImplicit false

/-! ## Looking at what is kept -/

namespace Credentials

variable {credentials : Credentials} {clock buffer : Number.Binary64}

theorem usable?_of_lasting {credential : Credential}
    (kept : credentials.token = some credential)
    (lasts : credential.isExpired clock buffer = false) :
    credentials.usable? clock buffer = some credential.value := by
  simp [usable?, kept, lasts]

/-- A look finds nothing when there is no token, or one that has ended. -/
theorem usable?_eq_none_iff :
    credentials.usable? clock buffer = none ↔
      ∀ credential, credentials.token = some credential →
        credential.isExpired clock buffer = true := by
  cases kept : credentials.token with
  | none => simp [usable?, kept]
  | some credential => simp [usable?, kept]

end Credentials

/-! ## Parts of a login -/

namespace Login

/-- What a flow does not touch. -/
def outsideFlow (login : Login) : Option Credential × Bool :=
  (login.credentials.token, login.credentials.locked)

@[simp] theorem reuse_apply (buffer : Number.Binary64) (login : Login) :
    reuse buffer login = (.ok (login.credentials.usable? login.world.clock buffer), login) :=
  rfl

variable {buffer : Number.Binary64} {login : Login} {α : Type}

theorem bind_reuse_of_some (next : Option String → LoginAct α) {value : String}
    (h : login.credentials.usable? login.world.clock buffer = some value) :
    (reuse buffer >>= next) login = next (some value) login :=
  Act.bind_of_ok (by rw [reuse_apply, h])

theorem bind_reuse_of_none (next : Option String → LoginAct α)
    (h : login.credentials.usable? login.world.clock buffer = none) :
    (reuse buffer >>= next) login = next none login :=
  Act.bind_of_ok (by rw [reuse_apply, h])

theorem holding_apply (action : LoginAct α) (login : Login) :
    holding action login =
      ((action (login.setLocked true)).1, (action (login.setLocked true)).2.setLocked false) :=
  rfl

theorem inWorld_of {action : WorldAct α} {result : Except Fault α} {world : World}
    (h : action login.world = (result, world)) :
    inWorld action login = (result, { login with world }) := by
  rw [inWorld, h]

theorem inWorld_keeps {τ : Type} {part : Login → τ}
    (kept : ∀ login world, part { login with world } = part login) (action : WorldAct α) :
    Act.Keeps part (inWorld action) :=
  fun login => kept login _

theorem keepRefresh_keeps {τ : Type} {part : Login → τ}
    (kept : ∀ login refreshToken,
      part { login with credentials := { login.credentials with refreshToken } } = part login)
    (refreshToken : Option String) : Act.Keeps part (keepRefresh refreshToken) :=
  .update fun login => kept login refreshToken

end Login

/-! ## Flows -/

namespace CodeProvider

/-- A new credential: by the refresh token, else by a login. -/
def flow (provider : CodeProvider) : LoginAct Credential := do
  match ← provider.renew with
  | some credential => pure credential
  | none => provider.logIn

variable {τ : Type} {part : Login → τ}

theorem receive_keeps (grant : Document.Grant) : Act.Keeps part (receive grant) :=
  .bind .get fun _ => .lift _

theorem keepRenewal_keeps
    (kept : ∀ login refreshToken,
      part { login with credentials := { login.credentials with refreshToken } } = part login)
    (grant : Document.Grant) : Act.Keeps part (keepRenewal grant) := by
  unfold keepRenewal
  split
  · exact Login.keepRefresh_keeps kept _
  · exact .pure ()

theorem note_keeps
    (kept : ∀ login log, part { login with world := { login.world with log } } = part login)
    (level : Level) (message : String) : Act.Keeps part (note level message) :=
  fun login => kept login _

theorem refresh_keeps (provider : CodeProvider) (refreshToken : String) :
    Act.Keeps Login.outsideFlow (provider.refresh refreshToken) := by
  unfold refresh
  refine .bind (.attempt (Login.inWorld_keeps (fun _ _ => rfl) _)) fun answer => ?_
  cases answer with
  | error failure =>
      refine .bind (note_keeps (fun _ _ => rfl) _ _) fun _ => ?_
      exact .bind (Login.keepRefresh_keeps (fun _ _ => rfl) none) fun _ => .pure none
  | ok grant =>
      refine .bind (keepRenewal_keeps (fun _ _ => rfl) grant) fun _ => ?_
      exact .bind (note_keeps (fun _ _ => rfl) _ _) fun _ => .map (receive_keeps grant) some

theorem renew_keeps (provider : CodeProvider) : Act.Keeps Login.outsideFlow provider.renew := by
  unfold renew
  refine .bind .get fun login => ?_
  split
  · exact provider.refresh_keeps _
  · exact .pure none

theorem logIn_keeps (provider : CodeProvider) : Act.Keeps Login.outsideFlow provider.logIn := by
  unfold logIn exchange
  refine .bind (Login.inWorld_keeps (fun _ _ => rfl) _) fun obtained => ?_
  refine .bind (Login.inWorld_keeps (fun _ _ => rfl) _) fun grant => ?_
  refine .bind (keepRenewal_keeps (fun _ _ => rfl) grant) fun _ => ?_
  exact .bind (note_keeps (fun _ _ => rfl) _ _) fun _ => receive_keeps grant

theorem flow_keeps (provider : CodeProvider) : Act.Keeps Login.outsideFlow provider.flow := by
  refine .bind provider.renew_keeps fun renewed => ?_
  cases renewed with
  | some credential => exact .pure credential
  | none => exact provider.logIn_keeps

end CodeProvider

namespace DelegatedProvider

/-- A new credential: the bare token of a session. -/
def flow (provider : DelegatedProvider) : LoginAct Credential := do
  pure ⟨← Login.inWorld provider.logIn, none⟩

theorem flow_keeps (provider : DelegatedProvider) :
    Act.Keeps Login.outsideFlow provider.flow :=
  .bind (Login.inWorld_keeps (fun _ _ => rfl) _) fun _ => .pure _

end DelegatedProvider

/-! ## Calls -/

namespace Provider

/-- Getting a new credential, which is not stored yet. -/
def flow : Provider → LoginAct Credential
  | .code provider => provider.flow
  | .delegated provider => provider.flow

theorem flow_keeps (provider : Provider) : Act.Keeps Login.outsideFlow provider.flow := by
  cases provider with
  | code provider => exact provider.flow_keeps
  | delegated provider => exact provider.flow_keeps

/-- A new token, which is stored. -/
def acquire : Provider → LoginAct String
  | .code provider => provider.acquire
  | .delegated provider => provider.acquire

theorem acquire_eq (provider : Provider) :
    provider.acquire = provider.flow >>= fun credential =>
      Login.keep credential >>= fun _ => pure credential.value := by
  cases provider with
  | code provider =>
      simp only [acquire, flow, CodeProvider.acquire, CodeProvider.flow, Act.bind_assoc]
      refine congrArg _ (funext fun renewed => ?_)
      cases renewed <;> rfl
  | delegated provider =>
      simp only [acquire, flow, DelegatedProvider.acquire, DelegatedProvider.flow, Act.bind_assoc]
      rfl

variable {provider : Provider} {login : Login}

/-- A kept token that lasts is the result, and nothing else happens. -/
theorem getToken_of_usable {value : String}
    (h : login.credentials.usable? login.world.clock provider.buffer = some value) :
    provider.getToken login = (.ok value, login) := by
  cases provider with
  | code provider => exact Login.bind_reuse_of_some _ h
  | delegated provider => exact Login.bind_reuse_of_some _ h

/-- Otherwise a token is acquired under the lock, which is free in the end. -/
theorem getToken_of_none
    (h : login.credentials.usable? login.world.clock provider.buffer = none) :
    provider.getToken login =
      ((provider.acquire (login.setLocked true)).1,
        (provider.acquire (login.setLocked true)).2.setLocked false) := by
  -- the second look is at the same credentials, since only the lock has changed
  have again : (login.setLocked true).credentials.usable? (login.setLocked true).world.clock
      provider.buffer = none := h
  -- releasing the lock changes the world after the call, and not its result
  have released {action action' : Except Fault String × Login} (same : action = action') :
      (action.1, action.2.setLocked false) = (action'.1, action'.2.setLocked false) := by
    rw [same]
  cases provider with
  | code provider =>
      refine (Login.bind_reuse_of_none _ h).trans ?_
      simp only [CodeProvider.acquireLocked, Login.holding_apply]
      exact released (Login.bind_reuse_of_none _ again)
  | delegated provider =>
      refine (Login.bind_reuse_of_none _ h).trans ?_
      simp only [DelegatedProvider.acquireLocked, Login.holding_apply]
      exact released (Login.bind_reuse_of_none _ again)

/-- Then the call comes to what its flow came to, and does nothing else to the world or to
the refresh token. -/
theorem getToken_of_flow
    (h : login.credentials.usable? login.world.clock provider.buffer = none) :
    (provider.getToken login).1 =
        ((provider.flow (login.setLocked true)).1.map fun credential => credential.value) ∧
      (provider.getToken login).2.world = (provider.flow (login.setLocked true)).2.world ∧
      (provider.getToken login).2.credentials.refreshToken =
        (provider.flow (login.setLocked true)).2.credentials.refreshToken := by
  rw [getToken_of_none h, acquire_eq]
  rcases flown : provider.flow (login.setLocked true) with ⟨fault | credential, after⟩
  · rw [Act.bind_of_error flown]
    exact ⟨rfl, rfl, rfl⟩
  · rw [Act.bind_of_ok flown]
    exact ⟨rfl, rfl, rfl⟩

/-- A call that fails stores no token. -/
theorem token_of_error {fault : Fault} (h : (provider.getToken login).1 = .error fault) :
    (provider.getToken login).2.credentials.token = login.credentials.token := by
  cases look : login.credentials.usable? login.world.clock provider.buffer with
  | some value =>
      rw [getToken_of_usable look] at h
      cases h
  | none =>
      have kept := provider.flow_keeps (login.setLocked true)
      rw [getToken_of_none look, acquire_eq] at h ⊢
      rcases flown : provider.flow (login.setLocked true) with ⟨cause | credential, after⟩
      · rw [flown] at kept
        rw [Act.bind_of_error flown]
        exact (Prod.mk.inj kept).1
      · rw [Act.bind_of_ok flown] at h
        cases h

/-- A call that found no token stores the one that it comes to. -/
theorem token_of_ok {value : String}
    (missed : login.credentials.usable? login.world.clock provider.buffer = none)
    (h : (provider.getToken login).1 = .ok value) :
    ∃ credential, (provider.getToken login).2.credentials.token = some credential ∧
      credential.value = value := by
  rw [getToken_of_none missed, acquire_eq] at h ⊢
  rcases flown : provider.flow (login.setLocked true) with ⟨fault | credential, after⟩
  · rw [Act.bind_of_error flown] at h
    cases h
  · rw [Act.bind_of_ok flown] at h ⊢
    exact ⟨credential, rfl, Except.ok.inj h⟩

end Provider

/-! ## Calls with a code -/

namespace CodeProvider

variable {provider : CodeProvider} {login : Login}

theorem getToken_of_usable {value : String}
    (h : login.credentials.usable? login.world.clock buffer = some value) :
    provider.getToken login = (.ok value, login) :=
  @Provider.getToken_of_usable (.code provider) login value h

theorem getToken_of_none (h : login.credentials.usable? login.world.clock buffer = none) :
    provider.getToken login =
      ((provider.acquire (login.setLocked true)).1,
        (provider.acquire (login.setLocked true)).2.setLocked false) :=
  @Provider.getToken_of_none (.code provider) login h

theorem getToken_of_flow (h : login.credentials.usable? login.world.clock buffer = none) :
    (provider.getToken login).1 =
        ((provider.flow (login.setLocked true)).1.map fun credential => credential.value) ∧
      (provider.getToken login).2.world = (provider.flow (login.setLocked true)).2.world ∧
      (provider.getToken login).2.credentials.refreshToken =
        (provider.flow (login.setLocked true)).2.credentials.refreshToken :=
  @Provider.getToken_of_flow (.code provider) login h

end CodeProvider

end TokenFlow
