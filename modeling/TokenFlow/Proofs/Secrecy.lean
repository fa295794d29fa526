/-
# TokenFlow.Proofs.Secrecy -- secrets go to the token endpoint, and nowhere else

Two clients that differ in their secrets, and logins that differ in their refresh tokens:
whatever they do, they do alike.  The secrets are sent in forms that are equal when they
are blanked (`redacted_exchangeForm`, `redacted_refreshForm`), and what comes of a request
does not depend on its form (`requestGrant_agrees`).  So a call comes to the same with
either, stores the same token, writes the same log and shows the same events, but for the
secrets that were sent.

The kept refresh tokens cannot be told apart by anything else, either: they are equal, or
each is the one that was there at first (`Login.Alike`).
-/
import TokenFlow.Proofs.Agreement
import TokenFlow.Proofs.Fallback
import TokenFlow.Proofs.RenewalLedger

namespace TokenFlow

set_option autoImplicit false

open TokenFlow.Document TokenFlow.Number

/-! ## Forms -/

namespace Http.Form

theorem redacted_append (form other : Http.Form) :
    redacted (form ++ other) = redacted form ++ redacted other :=
  List.map_append

end Http.Form

namespace CodeProvider

/-- The client with this secret. -/
def withSecret (provider : CodeProvider) (secret : String) : CodeProvider :=
  { provider with clientSecret := some secret }

variable {provider : CodeProvider} {secret other : String} (nonempty : secret ≠ "")
  (nonempty' : other ≠ "")

include nonempty nonempty'

theorem redacted_clientForm :
    (provider.withSecret secret).clientForm.redacted =
      (provider.withSecret other).clientForm.redacted := by
  have one : nonempty? (provider.withSecret secret).clientSecret = some secret :=
    nonempty?_eq_some_iff.mpr ⟨rfl, nonempty⟩
  have two : nonempty? (provider.withSecret other).clientSecret = some other :=
    nonempty?_eq_some_iff.mpr ⟨rfl, nonempty'⟩
  unfold clientForm
  rw [one, two]
  rfl

theorem redacted_exchangeForm (code redirectUri verifier : String) :
    ((provider.withSecret secret).exchangeForm code redirectUri verifier).redacted =
      ((provider.withSecret other).exchangeForm code redirectUri verifier).redacted := by
  unfold exchangeForm
  rw [Http.Form.redacted_append, Http.Form.redacted_append, redacted_clientForm nonempty nonempty']

theorem redacted_refreshForm (mine yours : String) :
    ((provider.withSecret secret).refreshForm mine).redacted =
      ((provider.withSecret other).refreshForm yours).redacted := by
  unfold refreshForm
  simp only [Http.Form.redacted_append, redacted_clientForm nonempty nonempty']
  rfl

end CodeProvider

/-! ## Logins -/

theorem Provider.requestGrant_agrees (step : GrantStep) (endpoint : String)
    {form other : Http.Form} (shown : form.redacted = other.redacted) :
    Act.Agree World.Alike (requestGrant step endpoint form) (requestGrant step endpoint other) := by
  have same : (Http.Request.post endpoint form tokenHeaders).redacted =
      (Http.Request.post endpoint other tokenHeaders).redacted := by
    simp [Http.Request.redacted, Http.Request.post, shown]
  unfold requestGrant
  refine .bind (World.Blind.emit _) fun _ => .bind (World.fetch_agrees same) fun reply => ?_
  rcases reply with detail | response
  · exact .raise _
  · dsimp only
    cases grantOf step response with
    | ok grant => exact .pure grant
    | error cause => exact .raise _

namespace Login

/-- The logins differ in secrets that were sent and in the refresh tokens that they started
with, if at all. -/
structure Alike (mine yours : String) (login twin : Login) : Prop where
  world : login.world.Alike twin.world
  token : login.credentials.token = twin.credentials.token
  locked : login.credentials.locked = twin.credentials.locked
  refreshToken : login.credentials.refreshToken = twin.credentials.refreshToken ∨
    (login.credentials.refreshToken = some mine ∧ twin.credentials.refreshToken = some yours)

variable {mine yours : String} {α : Type}

theorem inWorld_agrees {action other : WorldAct α} (same : Act.Agree World.Alike action other) :
    Act.Agree (Alike mine yours) (inWorld action) (inWorld other) := by
  intro login twin alike
  obtain ⟨result, world⟩ := same login.world twin.world alike.world
  exact ⟨result, world, alike.token, alike.locked, alike.refreshToken⟩

theorem keep_agrees (credential : Credential) :
    Act.Agree (Alike mine yours) (keep credential) (keep credential) :=
  .update fun _ _ alike => ⟨alike.world, rfl, alike.locked, alike.refreshToken⟩

theorem keepRefresh_agrees (refreshToken : Option String) :
    Act.Agree (Alike mine yours) (keepRefresh refreshToken) (keepRefresh refreshToken) :=
  .update fun _ _ alike => ⟨alike.world, alike.token, alike.locked, .inl rfl⟩

theorem Alike.clock {login twin : Login} (alike : login.Alike mine yours twin) :
    login.world.clock = twin.world.clock := by
  show login.world.redacted.clock = twin.world.redacted.clock
  rw [alike.world]

/-- The refresh tokens are nonempty both, or both there is none. -/
theorem Alike.nonempty? {login twin : Login} (alike : login.Alike mine yours twin)
    (nonempty : mine ≠ "") (nonempty' : yours ≠ "") :
    (TokenFlow.nonempty? login.credentials.refreshToken = none ∧
        TokenFlow.nonempty? twin.credentials.refreshToken = none) ∨
      ∃ one two, TokenFlow.nonempty? login.credentials.refreshToken = some one ∧
        TokenFlow.nonempty? twin.credentials.refreshToken = some two := by
  rcases alike.refreshToken with same | ⟨own, own'⟩
  · rw [same]
    cases TokenFlow.nonempty? twin.credentials.refreshToken with
    | none => exact .inl ⟨rfl, rfl⟩
    | some token => exact .inr ⟨token, token, rfl, rfl⟩
  · exact .inr ⟨mine, yours, nonempty?_eq_some_iff.mpr ⟨own, nonempty⟩,
      nonempty?_eq_some_iff.mpr ⟨own', nonempty'⟩⟩

theorem reuse_agrees (buffer : Binary64) :
    Act.Agree (Alike mine yours) (reuse buffer) (reuse buffer) := by
  intro login twin alike
  refine ⟨?_, alike⟩
  simp only [reuse_apply, Credentials.usable?, alike.token, alike.clock]

theorem holding_agrees {action other : LoginAct α}
    (same : Act.Agree (Alike mine yours) action other) :
    Act.Agree (Alike mine yours) (holding action) (holding other) := by
  have locks (locked : Bool) (login twin : Login) (alike : login.Alike mine yours twin) :
      (login.setLocked locked).Alike mine yours (twin.setLocked locked) :=
    ⟨alike.world, alike.token, rfl, alike.refreshToken⟩
  exact .bind (.update (locks true)) fun _ => .thenAlways same (locks false)

end Login

/-! ## Calls -/

namespace CodeProvider

open Login

variable {provider : CodeProvider} {secret other mine yours : String}

theorem receive_agrees (grant : Grant) :
    Act.Agree (Login.Alike mine yours) (receive grant) (receive grant) := by
  refine .reading fun login twin alike => ?_
  rw [alike.clock]
  exact .lift _

theorem keepRenewal_agrees (grant : Grant) :
    Act.Agree (Login.Alike mine yours) (keepRenewal grant) (keepRenewal grant) := by
  unfold keepRenewal
  cases grant.renewal? with
  | some token => exact keepRefresh_agrees _
  | none => exact .pure ()

theorem note_agrees (level : Level) (message : String) :
    Act.Agree (Login.Alike mine yours) (note level message) (note level message) :=
  inWorld_agrees (World.Blind.write level .provider message)

section

variable (nonempty : secret ≠ "") (nonempty' : other ≠ "")

include nonempty nonempty'

theorem exchange_agrees (code redirectUri verifier : String) :
    Act.Agree (Login.Alike mine yours)
      ((provider.withSecret secret).exchange code redirectUri verifier)
      ((provider.withSecret other).exchange code redirectUri verifier) := by
  have shown := @redacted_exchangeForm provider secret other nonempty nonempty' code redirectUri
    verifier
  unfold exchange
  refine .bind (inWorld_agrees (Provider.requestGrant_agrees .exchange _ shown)) fun grant => ?_
  refine .bind (keepRenewal_agrees grant) fun _ => .bind (note_agrees _ _) fun _ => ?_
  exact receive_agrees grant

/-- Renewals agree whatever refresh tokens they present. -/
theorem refresh_agrees (one two : String) :
    Act.Agree (Login.Alike mine yours) ((provider.withSecret secret).refresh one)
      ((provider.withSecret other).refresh two) := by
  have shown := @redacted_refreshForm provider secret other nonempty nonempty' one two
  unfold refresh
  refine .bind (.attempt (inWorld_agrees (Provider.requestGrant_agrees .refresh _ shown)))
    fun answer => ?_
  rcases answer with failure | grant
  · exact .bind (note_agrees _ _) fun _ => .bind (keepRefresh_agrees none) fun _ => .pure none
  · refine .bind (keepRenewal_agrees grant) fun _ => .bind (note_agrees _ _) fun _ => ?_
    exact .map (receive_agrees grant) some

variable (present : mine ≠ "") (present' : yours ≠ "")

include present present'

theorem renew_agrees :
    Act.Agree (Login.Alike mine yours) (provider.withSecret secret).renew
      (provider.withSecret other).renew := by
  unfold renew
  refine .reading fun login twin alike => ?_
  rcases alike.nonempty? present present' with ⟨none, none'⟩ | ⟨one, two, kept, kept'⟩
  · rw [none, none']
    exact .pure _
  · rw [kept, kept']
    exact refresh_agrees nonempty nonempty' one two

theorem acquire_agrees :
    Act.Agree (Login.Alike mine yours) (provider.withSecret secret).acquire
      (provider.withSecret other).acquire := by
  have logIn : Act.Agree (Login.Alike mine yours) (provider.withSecret secret).logIn
      (provider.withSecret other).logIn :=
    .bind (inWorld_agrees (provider.withSecret secret).obtainCode_blind) fun obtained =>
      exchange_agrees nonempty nonempty' _ _ _
  have stored (credential : Credential) : Act.Agree (Login.Alike mine yours)
      (Login.keep credential >>= fun _ => pure credential.value)
      (Login.keep credential >>= fun _ => pure credential.value) :=
    .bind (keep_agrees credential) fun _ => .pure _
  unfold acquire
  refine .bind (renew_agrees nonempty nonempty' present present') fun renewed => ?_
  cases renewed with
  | some credential => exact .bind (.pure credential) stored
  | none => exact .bind logIn stored

/-- Calls agree, step by step. -/
theorem getToken_agrees :
    Act.Agree (Login.Alike mine yours) (provider.withSecret secret).getToken
      (provider.withSecret other).getToken := by
  unfold getToken acquireLocked
  refine .bind (reuse_agrees _) fun kept => ?_
  cases kept with
  | some value => exact .pure value
  | none =>
      refine holding_agrees (.bind (reuse_agrees _) fun kept => ?_)
      cases kept with
      | some value => exact .pure value
      | none => exact acquire_agrees nonempty nonempty' present present'

end

/-- Two calls on clients that differ in their secrets, from what is kept but for different
refresh tokens, in one world.  They come to the same value or the same fault; they show the
same events, but for the values of the secrets in the forms that they send; they leave the
same token, and refresh tokens that are equal or the ones that were there at first; and
nothing else of the world tells them apart. -/
theorem secrets_stay_hidden (provider : CodeProvider) (token : Option Credential) (locked : Bool)
    (world : World) (nonempty : secret ≠ "") (nonempty' : other ≠ "") (present : mine ≠ "")
    (present' : yours ≠ "") :
    let one := (provider.withSecret secret).getToken ⟨⟨token, some mine, locked⟩, world⟩
    let two := (provider.withSecret other).getToken ⟨⟨token, some yours, locked⟩, world⟩
    one.1 = two.1 ∧
      (∃ events events', one.2.world.trace = world.trace ++ events ∧
        two.2.world.trace = world.trace ++ events' ∧
        events.map Event.redacted = events'.map Event.redacted) ∧
      one.2.credentials.token = two.2.credentials.token ∧
      (one.2.credentials.refreshToken = two.2.credentials.refreshToken ∨
        (one.2.credentials.refreshToken = some mine ∧
          two.2.credentials.refreshToken = some yours)) ∧
      { one.2.world with trace := [] } = { two.2.world with trace := [] } := by
  intro one two
  let before (refreshToken : String) : Login := ⟨⟨token, some refreshToken, locked⟩, world⟩
  have alike : (before mine).Alike mine yours (before yours) :=
    ⟨rfl, rfl, rfl, .inr ⟨rfl, rfl⟩⟩
  obtain ⟨result, after⟩ := getToken_agrees nonempty nonempty' present
    present' _ _ alike
  obtain ⟨entries, ledger, -⟩ := (provider.withSecret secret).getToken_ledger (before mine)
  obtain ⟨entries', ledger', -⟩ := (provider.withSecret other).getToken_ledger (before yours)
  obtain ⟨events, trace, -⟩ := ledger.asks.told
  obtain ⟨events', trace', -⟩ := ledger'.asks.told
  refine ⟨result, ⟨events, events', trace, trace', ?_⟩, after.token, after.refreshToken, ?_⟩
  · have shown : one.2.world.trace.map Event.redacted = two.2.world.trace.map Event.redacted :=
      congrArg World.trace after.world
    rw [show one.2.world.trace = _ from trace, show two.2.world.trace = _ from trace',
      List.map_append, List.map_append] at shown
    exact List.append_cancel_left shown
  · exact congrArg (fun world : World => { world with trace := [] }) after.world

/-- The stale call, of a client with this secret and with this refresh token. -/
def staleRun (secret refreshToken : String) : Except Fault String × Login :=
  (client.withSecret secret).getToken
    ⟨⟨staleCall.credentials.token, some refreshToken, false⟩, staleCall.world⟩

/-- With one secret and with another, the stale call presents its refresh token in vain, logs
in, and comes to the same token. -/
theorem secrets_stay_hidden_staleRun :
    (staleRun "one" "r").1.toOption = some "t" ∧
      (staleRun "one" "r").1 = (staleRun "two" "q").1 ∧
      (staleRun "one" "r").2.world.trace ≠ (staleRun "two" "q").2.world.trace ∧
      (staleRun "one" "r").2.world.trace.map Event.redacted =
        (staleRun "two" "q").2.world.trace.map Event.redacted := by
  have came : (staleRun "one" "r").1.toOption = some "t" := by decide +kernel
  have told : (staleRun "one" "r").2.world.trace ≠ (staleRun "two" "q").2.world.trace := by
    decide +kernel
  have hidden := @secrets_stay_hidden "one" "two" "r" "q" client staleCall.credentials.token false
    staleCall.world (by decide) (by decide) (by decide) (by decide)
  dsimp only at hidden
  rw [← staleRun, ← staleRun] at hidden
  obtain ⟨result, ⟨events, events', trace, trace', shown⟩, -⟩ := hidden
  refine ⟨came, result, told, ?_⟩
  rw [trace, trace', List.map_append, List.map_append, shown]

end CodeProvider

end TokenFlow
