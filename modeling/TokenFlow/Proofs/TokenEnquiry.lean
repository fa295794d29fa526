/-
# TokenFlow.Proofs.TokenEnquiry -- what the answer of a token endpoint does to a login

A token endpoint is asked in two places, for a code and for a renewal, and both go by its
answer in the same way.  Only a final status 200 with a well-formed body is a grant
(`Enquiry.grant?`); its lifetime makes a credential of it, unless it is beyond all doubles.

An answer may also stop the request (`Enquiry.fault?`): the network has raised a fault, or
the answer is a refusal whose text no codec can read, and neither is a token failure.

The kept refresh token is a matter of the answers alone (`Enquiry.keeps`): a grant that
brings a refresh token replaces it, a renewal that is refused costs it, and nothing else
touches it.  `exchange_eq` and `refresh_eq` say what the two places come to.
-/
import TokenFlow.Proofs.Acquisition
import TokenFlow.Proofs.Correspondence

namespace TokenFlow

set_option autoImplicit false

open TokenFlow.Document TokenFlow.Number

theorem Credential.ofGrant_eq_error {grant : Grant} {clock : Binary64} {fault : Fault}
    (h : Credential.ofGrant grant clock = .error fault) :
    fault = .overflow ∧ Binary64.ofInt? grant.lifetime = none := by
  unfold Credential.ofGrant at h
  split at h
  · cases h
  · rename_i endless
    exact ⟨(Except.error.inj h).symm, endless⟩

/-! ## Answers of a token endpoint -/

/-- A request for a grant of another access token. -/
def Http.Request.isRenewal (request : Http.Request) : Bool :=
  request.form.any fun form => form.lookup "grant_type" = some "refresh_token"

/-- Why a refusal cannot be told: it is in no standard form, and its text cannot be read. -/
def Http.Response.illegible? (response : Http.Response) : Option Foreign :=
  if response.status = 200 then none
  else
    match Refusal.ofBody response.body, response.text with
    | .error _, .error cause => some cause
    | _, _ => none

/-- Only a response with a status of its own can be illegible. -/
theorem Http.Response.status_of_illegible {response : Http.Response} {cause : Foreign}
    (h : response.illegible? = some cause) :
    response.status ≠ 200 ∧ response.text = .error cause := by
  unfold illegible? at h
  split at h
  · cases h
  · rename_i refused
    split at h
    · rename_i text
      exact ⟨refused, text.trans (congrArg _ (Option.some.inj h))⟩
    · cases h

namespace Provider

/-- A refusal is told, unless it is illegible. -/
theorem refuse_cases (step : GrantStep) {response : Http.Response}
    (refused : response.status ≠ 200) :
    (∃ cause, response.illegible? = none ∧ refusalOf step response = .ok cause ∧
        refuse step response = .failure (.token cause)) ∨
      ∃ cause, response.illegible? = some cause ∧ refuse step response = .foreign cause := by
  unfold refuse refusalOf Http.Response.illegible?
  rw [if_neg refused]
  cases Refusal.ofBody response.body with
  | ok refusal => exact .inl ⟨_, rfl, rfl, rfl⟩
  | error issues =>
      cases response.text with
      | ok text => exact .inl ⟨_, rfl, rfl, rfl⟩
      | error cause => exact .inr ⟨cause, rfl, rfl⟩

end Provider

namespace Enquiry

/-- The grant that was received. -/
def grant? (entry : Enquiry) : Option Grant :=
  match entry.answer with
  | .ok (.ok response) =>
      if response.status = 200 then (Grant.ofBody response.body).toOption else none
  | _ => none

/-- A request that presents a refresh token. -/
def isRenewal (entry : Enquiry) : Bool :=
  entry.request.isRenewal

/-- The refresh token that was presented. -/
def presented? (entry : Enquiry) : Option String :=
  entry.request.form.bind fun form => form.lookup "refresh_token"

/-- The refresh token that was received: a grant may bring one, and it is not empty. -/
def issued? (entry : Enquiry) : Option String :=
  entry.grant?.bind Grant.renewal?

/-- The fault that stops a token request, and is no token failure. -/
def fault? (entry : Enquiry) : Option Fault :=
  match entry.answer with
  | .error fault => some fault
  | .ok (.error _) => none
  | .ok (.ok response) => response.illegible?.map .foreign

/-- A renewal that failed: nobody was reached, or the answer is no grant. -/
def refusesRenewal (entry : Enquiry) : Bool :=
  entry.isRenewal && entry.fault?.isNone && entry.grant?.isNone

/-- The refresh token that is kept after the answer. -/
def keeps (kept : Option String) (entry : Enquiry) : Option String :=
  match entry.issued? with
  | some token => some token
  | none => if entry.refusesRenewal then none else kept

/-- A token request comes to a grant; or the answer stops it; or the answer is none. -/
theorem conclude_cases (step : GrantStep) (endpoint : String) (entry : Enquiry) :
    (∃ grant, entry.grant? = some grant ∧
        Provider.conclude step endpoint entry.answer = .ok grant) ∨
      (∃ fault, entry.fault? = some fault ∧ entry.grant? = none ∧
        Provider.conclude step endpoint entry.answer = .error fault) ∨
      ∃ cause, entry.fault? = none ∧ entry.grant? = none ∧
        Provider.conclude step endpoint entry.answer = .error (.failure (.token cause)) := by
  rcases entry with ⟨request, fault | detail | response⟩
  · exact .inr (.inl ⟨fault, rfl, rfl, rfl⟩)
  · exact .inr (.inr ⟨_, rfl, rfl, rfl⟩)
  · by_cases fine : response.status = 200
    · have legible : response.illegible? = none := if_pos fine
      cases read : Grant.ofBody response.body with
      | ok grant =>
          refine .inl ⟨grant, ?_, ?_⟩
          · simp [grant?, fine, read, Except.toOption]
          · simp [Provider.conclude, Provider.grantOf, fine, read]
      | error issues =>
          refine .inr (.inr ⟨.invalid step response.status issues, ?_, ?_, ?_⟩)
          · simp [fault?, legible]
          · simp [grant?, fine, read, Except.toOption]
          · simp [Provider.conclude, Provider.grantOf, fine, read]
    · have refused : Provider.grantOf step response = .error (Provider.refuse step response) :=
        if_neg fine
      rcases Provider.refuse_cases step fine with
        ⟨cause, legible, -, told⟩ | ⟨cause, illegible, told⟩
      · refine .inr (.inr ⟨cause, ?_, if_neg fine, refused.trans (congrArg _ told)⟩)
        simp [fault?, legible]
      · refine .inr (.inl ⟨.foreign cause, ?_, if_neg fine, refused.trans (congrArg _ told)⟩)
        simp [fault?, illegible]

/-- The fault of an answer is one of the network, or foreign to it. -/
theorem fault?_cases {entry : Enquiry} {fault : Fault} (h : entry.fault? = some fault) :
    entry.answer = .error fault ∨
      ∃ response cause, entry.answer = .ok (.ok response) ∧ response.illegible? = some cause ∧
        fault = .foreign cause := by
  rcases entry with ⟨request, raised | detail | response⟩
  · exact .inl (congrArg _ (Option.some.inj h))
  · cases h
  · obtain ⟨cause, illegible, rfl⟩ := Option.map_eq_some_iff.mp h
    exact .inr ⟨response, cause, rfl, illegible, rfl⟩

/-- The credential that the answer gives at a moment. -/
def credential (step : GrantStep) (endpoint : String) (clock : Binary64) (entry : Enquiry) :
    Except Fault Credential :=
  match Provider.conclude step endpoint entry.answer with
  | .ok grant => Credential.ofGrant grant clock
  | .error fault => .error fault

/-- The same for a renewal, which may fail: then there is no credential, and that is all. -/
def renewal (endpoint : String) (clock : Binary64) (entry : Enquiry) :
    Except Fault (Option Credential) :=
  match entry.credential .refresh endpoint clock with
  | .ok credential => .ok (some credential)
  | .error (.failure _) => .ok none
  | .error fault => .error fault

variable {entry : Enquiry} {step : GrantStep} {endpoint : String} {clock : Binary64}
  {kept : Option String}

theorem credential_of_ok {grant : Grant}
    (h : Provider.conclude step endpoint entry.answer = .ok grant) :
    entry.credential step endpoint clock = Credential.ofGrant grant clock := by
  rw [credential, h]

theorem credential_of_error {fault : Fault}
    (h : Provider.conclude step endpoint entry.answer = .error fault) :
    entry.credential step endpoint clock = .error fault := by
  rw [credential, h]

/-- A credential, or the lack of a grant, or a lifetime that no clock can be moved by. -/
theorem credential_cases (step : GrantStep) (endpoint : String) (clock : Binary64)
    (entry : Enquiry) :
    (∃ grant, entry.grant? = some grant ∧
        entry.credential step endpoint clock = Credential.ofGrant grant clock) ∨
      (∃ fault, entry.fault? = some fault ∧ entry.grant? = none ∧
        entry.credential step endpoint clock = .error fault) ∨
      ∃ cause, entry.fault? = none ∧ entry.grant? = none ∧
        entry.credential step endpoint clock = .error (.failure (.token cause)) := by
  rcases entry.conclude_cases step endpoint with
    ⟨grant, granted, concluded⟩ | ⟨fault, stopped, refused, concluded⟩ |
    ⟨cause, told, refused, concluded⟩
  · exact .inl ⟨grant, granted, credential_of_ok concluded⟩
  · exact .inr (.inl ⟨fault, stopped, refused, credential_of_error concluded⟩)
  · exact .inr (.inr ⟨cause, told, refused, credential_of_error concluded⟩)

theorem renewal_of_ok {grant : Grant}
    (h : Provider.conclude .refresh endpoint entry.answer = .ok grant) :
    entry.renewal endpoint clock = (Credential.ofGrant grant clock).map some := by
  rw [renewal, credential_of_ok h]
  cases received : Credential.ofGrant grant clock with
  | ok credential => rfl
  | error fault =>
      obtain ⟨rfl, -⟩ := Credential.ofGrant_eq_error received
      rfl

theorem renewal_of_failure {failure : Failure}
    (h : entry.credential .refresh endpoint clock = .error (.failure failure)) :
    entry.renewal endpoint clock = .ok none := by
  rw [renewal, h]

theorem renewal_of_fault {fault : Fault}
    (h : entry.credential .refresh endpoint clock = .error fault)
    (fatal : ∀ failure, fault ≠ .failure failure) :
    entry.renewal endpoint clock = .error fault := by
  rw [renewal, h]
  cases fault with
  | failure failure => exact absurd rfl (fatal failure)
  | _ => rfl

/-- A renewal is stopped by what is no failure. -/
theorem credential_of_renewal {fault : Fault}
    (h : entry.renewal endpoint clock = .error fault) :
    entry.credential .refresh endpoint clock = .error fault := by
  unfold renewal at h
  split at h
  · cases h
  · cases h
  · rename_i given
    rw [given, Except.error.inj h]

/-- A renewal that comes to nothing received no grant. -/
theorem not_granted_of_renewal (h : entry.renewal endpoint clock = .ok none) :
    entry.grant? = none := by
  rcases entry.credential_cases .refresh endpoint clock with
    ⟨grant, -, given⟩ | ⟨fault, -, refused, -⟩ | ⟨cause, -, refused, -⟩
  · unfold renewal at h
    rw [given] at h
    cases received : Credential.ofGrant grant clock with
    | ok credential =>
        rw [received] at h
        cases h
    | error fault =>
        obtain ⟨rfl, -⟩ := Credential.ofGrant_eq_error received
        rw [received] at h
        cases h
  · exact refused
  · exact refused

theorem keeps_of_grant {grant : Grant} (granted : entry.grant? = some grant) :
    entry.keeps kept = grant.renewal?.or kept := by
  have issued : entry.issued? = grant.renewal? := by simp [issued?, granted]
  have fine : entry.refusesRenewal = false := by simp [refusesRenewal, granted]
  rw [keeps, issued, fine]
  cases grant.renewal? <;> rfl

theorem keeps_of_refusal (told : entry.fault? = none) (refused : entry.grant? = none) :
    entry.keeps kept = if entry.isRenewal then none else kept := by
  simp [keeps, issued?, refusesRenewal, refused, told]

theorem keeps_of_fault {fault : Fault} (stopped : entry.fault? = some fault)
    (refused : entry.grant? = none) : entry.keeps kept = kept := by
  simp [keeps, issued?, refusesRenewal, refused, stopped]

end Enquiry

namespace Provider

/-- The enquiry of a token request. -/
def tokenEnquiry (endpoint : String) (form : Http.Form) (world : World) : Enquiry :=
  ⟨.post endpoint form tokenHeaders, (submit endpoint form world).1⟩

theorem submit_asks (endpoint : String) (form : Http.Form) (world : World) :
    world.Asks (submit endpoint form world).2 [tokenEnquiry endpoint form world] :=
  (world.record_asks rfl).trans_left (World.fetch_asks _ _)

theorem clock_submit (endpoint : String) (form : Http.Form) (world : World) :
    (submit endpoint form world).2.clock = world.clock := by
  obtain ⟨replies, redirects, -, after⟩ := submit_frame endpoint form world
  rw [after]

theorem not_failure_of_tokenEnquiry {endpoint : String} {form : Http.Form} {world : World}
    {fault : Fault} (h : (tokenEnquiry endpoint form world).fault? = some fault) :
    ∀ failure, fault ≠ .failure failure := by
  rintro failure rfl
  rcases Enquiry.fault?_cases h with raised | ⟨response, cause, -, -, foreign⟩
  · exact (World.isOfNetwork_of_fetch raised).elim
  · cases foreign

end Provider

/-! ## Codes and renewals -/

namespace Login

/-- The login with another world and another refresh token. -/
def renewed (login : Login) (refreshToken : Option String) (world : World) : Login :=
  ⟨{ login.credentials with refreshToken }, world⟩

end Login

namespace CodeProvider

variable (provider : CodeProvider)

theorem keepRenewal_apply (grant : Grant) (login : Login) :
    keepRenewal grant login =
      (.ok (), login.renewed (grant.renewal?.or login.credentials.refreshToken) login.world) := by
  unfold keepRenewal
  cases grant.renewal? <;> rfl

theorem note_apply (level : Level) (message : String) (login : Login) :
    note level message login =
      (.ok (), { login with world := login.world.note level .provider message }) :=
  rfl

theorem receive_apply (grant : Grant) (login : Login) :
    receive grant login = (Credential.ofGrant grant login.world.clock, login) :=
  rfl

theorem map_receive_apply (grant : Grant) (login : Login) :
    (some <$> receive grant) login =
      ((Credential.ofGrant grant login.world.clock).map some, login) := by
  rw [Act.map_apply, receive_apply]

theorem inWorld_requestGrant (step : GrantStep) (endpoint : String) (form : Http.Form)
    (login : Login) :
    Login.inWorld (Provider.requestGrant step endpoint form) login =
      (Provider.conclude step endpoint (Provider.tokenEnquiry endpoint form login.world).answer,
        { login with world := (Provider.submit endpoint form login.world).2 }) := by
  rw [Login.inWorld, Provider.requestGrant_eq]
  rfl

/-- What a code is exchanged for, by the answer to its request. -/
theorem exchange_eq (code redirectUri verifier : String) (login : Login) :
    let form := provider.exchangeForm code redirectUri verifier
    let entry := Provider.tokenEnquiry provider.tokenEndpoint form login.world
    ∃ log, provider.exchange code redirectUri verifier login =
      (entry.credential .exchange provider.tokenEndpoint login.world.clock,
        login.renewed (entry.keeps login.credentials.refreshToken)
          { (Provider.submit provider.tokenEndpoint form login.world).2 with log }) := by
  intro form entry
  have requested := inWorld_requestGrant .exchange provider.tokenEndpoint form login
  have clock := Provider.clock_submit provider.tokenEndpoint form login.world
  have code : entry.isRenewal = false := rfl
  unfold exchange
  rcases entry.conclude_cases .exchange provider.tokenEndpoint with
    ⟨grant, granted, concluded⟩ | ⟨fault, stopped, refused, concluded⟩ |
    ⟨cause, told, refused, concluded⟩
  · rw [concluded] at requested
    rw [Act.bind_of_ok requested, Act.bind_of_ok (keepRenewal_apply grant _),
      Act.bind_of_ok (note_apply ..), receive_apply, Enquiry.credential_of_ok concluded,
      Enquiry.keeps_of_grant granted, ← clock]
    exact ⟨_, rfl⟩
  · rw [concluded] at requested
    rw [Act.bind_of_error requested, Enquiry.credential_of_error concluded,
      Enquiry.keeps_of_fault stopped refused]
    exact ⟨_, rfl⟩
  · rw [concluded] at requested
    rw [Act.bind_of_error requested, Enquiry.credential_of_error concluded,
      Enquiry.keeps_of_refusal told refused, code]
    exact ⟨_, rfl⟩

/-- What trying a refresh token comes to, by the answer to its request. -/
theorem refresh_eq (refreshToken : String) (login : Login) :
    let form := provider.refreshForm refreshToken
    let entry := Provider.tokenEnquiry provider.tokenEndpoint form login.world
    ∃ log, provider.refresh refreshToken login =
      (entry.renewal provider.tokenEndpoint login.world.clock,
        login.renewed (entry.keeps login.credentials.refreshToken)
          { (Provider.submit provider.tokenEndpoint form login.world).2 with log }) := by
  intro form entry
  have requested := inWorld_requestGrant .refresh provider.tokenEndpoint form login
  have clock := Provider.clock_submit provider.tokenEndpoint form login.world
  have renewal : entry.isRenewal = true := rfl
  unfold refresh
  rcases entry.conclude_cases .refresh provider.tokenEndpoint with
    ⟨grant, granted, concluded⟩ | ⟨fault, stopped, refused, concluded⟩ |
    ⟨cause, told, refused, concluded⟩
  · rw [concluded] at requested
    rw [Act.bind_of_ok (Act.attempt_of_ok requested)]
    dsimp only
    rw [Act.bind_of_ok (keepRenewal_apply grant _), Act.bind_of_ok (note_apply ..),
      map_receive_apply, Enquiry.keeps_of_grant granted]
    rw [Enquiry.renewal_of_ok concluded, ← clock]
    exact ⟨_, rfl⟩
  · have fatal := Provider.not_failure_of_tokenEnquiry stopped
    rw [concluded] at requested
    rw [Act.bind_of_error (Act.attempt_of_fault requested fatal),
      Enquiry.renewal_of_fault (Enquiry.credential_of_error concluded) fatal,
      Enquiry.keeps_of_fault stopped refused]
    exact ⟨_, rfl⟩
  · rw [concluded] at requested
    rw [Act.bind_of_ok (Act.attempt_of_failure requested),
      Enquiry.renewal_of_failure (Enquiry.credential_of_error concluded),
      Enquiry.keeps_of_refusal told refused, if_pos renewal]
    exact ⟨_, rfl⟩

end CodeProvider

end TokenFlow
