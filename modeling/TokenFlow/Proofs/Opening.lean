/-
# TokenFlow.Proofs.Opening -- what an accepted configuration opens

The check of a configuration is what its provider relies on: there is a client for a login
with a code, and an address for a delegated one (`Complete`), and endpoints come from the
settings or are published, and are not empty in either case (`Known`).  So a provider is
never refused for an argument that is missing, and it is `Fits`, with the amounts of the
options (`provider_gives`).

Opening an account asks the network at most for the endpoints, and fails with a failure or
with what the network raised.  There is one exception, which `account_of_error` names: an
advertised address takes the place of the configured one, and may be no address at all.
-/
import TokenFlow.Proofs.Accounted

namespace TokenFlow

set_option autoImplicit false

open TokenFlow.Number TokenFlow.World

/-- The length of a verifier is not looked at before a login. -/
def Provider.Fits : Provider → Prop
  | .code provider => (ProofKey.minLength : Int) ≤ provider.verifierLength ∧
      provider.verifierLength ≤ ProofKey.maxLength
  | .delegated _ => True

/-- The amounts that the providers of these options may wait for. -/
def Configuration.Options.waits (options : Options) : List Amount :=
  [options.callbackTimeout, options.pollInterval, options.pollTimeout]

theorem Agent.inWorld_of {α : Type} {action : WorldAct α} {agent : Agent}
    {result : Except Fault α} {world : World} (h : action agent.world = (result, world)) :
    inWorld action agent = (result, { agent with world }) := by
  rw [inWorld, h]

/-! ## Endpoints -/

/-- Endpoints that a login can be sent to. -/
structure Discovery.Endpoints.Known (endpoints : Endpoints) : Prop where
  authorization : endpoints.authorization ≠ ""
  token : endpoints.token ≠ ""

namespace Discovery

theorem known_of_endpointsOf {issuer : String} {metadata : Document.Metadata}
    {endpoints : Endpoints} (h : endpointsOf issuer metadata = .ok endpoints) :
    endpoints.Known := by
  unfold endpointsOf at h
  split at h
  · cases h
  · rename_i authorization given
    split at h
    · cases h
    · rename_i token given'
      cases h
      exact ⟨(nonempty?_eq_some_iff.mp given).2, (nonempty?_eq_some_iff.mp given').2⟩

theorem known_of_conclude {issuer : String} {reply : Except String Http.Response}
    {endpoints : Endpoints} (h : conclude issuer reply = .ok endpoints) : endpoints.Known := by
  unfold conclude at h
  split at h
  · cases h
  · split at h
    · cases h
    · rename_i metadata read
      cases published : endpointsOf issuer metadata with
      | error cause =>
          rw [published] at h
          cases h
      | ok endpoints =>
          rw [published] at h
          cases h
          exact known_of_endpointsOf published

/-- Discovery comes to endpoints that are published, or to none. -/
theorem endpoints_gives (issuer : String) : Act.Gives Endpoints.Known (endpoints issuer) := by
  unfold endpoints
  refine .bind_snd fun _ => .bind_snd fun _ => .bind_snd fun reply => ?_
  split
  · rename_i endpoints concluded
    exact .pure (known_of_conclude concluded)
  · exact .raise _

end Discovery

namespace Configuration

open TokenFlow.Discovery (Endpoints)

variable (configuration : Configuration)

theorem discovered_accounts : Accounts [] configuration.discovered := by
  unfold discovered
  split
  · exact .pure none
  · split
    · exact .map (Discovery.endpoints_accounts _) some
    · exact .pure none

theorem discovered_gives :
    Act.Gives (fun found => ∀ endpoints ∈ found, Endpoints.Known endpoints)
      configuration.discovered := by
  have none : ∀ endpoints ∈ (none : Option Endpoints), endpoints.Known := by
    intro endpoints found
    cases found
  unfold discovered
  split
  · exact .pure none
  · split
    · refine .map (Discovery.endpoints_gives _) fun published known endpoints found => ?_
      obtain rfl : published = endpoints := Option.some.inj found
      exact known
    · exact .pure none

theorem ne_empty_of_endpointOr {explicit discovered : Option String} {endpoint : String}
    (known : ∀ url ∈ discovered, url ≠ "") (h : endpointOr explicit discovered = some endpoint) :
    endpoint ≠ "" := by
  unfold endpointOr at h
  split at h
  · rename_i given
    obtain rfl := Option.some.inj h
    exact (nonempty?_eq_some_iff.mp given).2
  · exact known endpoint h

/-- What is missing among the endpoints is a failure. -/
theorem endpoints_accounts : Accounts [] configuration.endpoints := by
  unfold endpoints
  refine .bind configuration.discovered_accounts fun discovered => ?_
  split
  · exact .fail _
  · split
    · exact .fail _
    · exact .pure _

theorem endpoints_gives : Act.Gives Endpoints.Known configuration.endpoints := by
  unfold endpoints
  refine .bind configuration.discovered_gives fun discovered known => ?_
  split
  · exact .raise _
  · rename_i authorization given
    split
    · exact .raise _
    · rename_i token given'
      refine .pure ⟨ne_empty_of_endpointOr ?_ given, ne_empty_of_endpointOr ?_ given'⟩
      · intro url mapped
        obtain ⟨endpoints, found, rfl⟩ := Option.map_eq_some_iff.mp mapped
        exact (known endpoints found).authorization
      · intro url mapped
        obtain ⟨endpoints, found, rfl⟩ := Option.map_eq_some_iff.mp mapped
        exact (known endpoints found).token

/-! ## Acceptance -/

variable {configuration}

/-- What the flow of a configuration cannot do without is there. -/
def Complete (configuration : Configuration) : Prop :=
  match configuration.flow with
  | .authorizationCode => ∃ clientId, nonempty? configuration.clientId = some clientId
  | .delegated => ∃ url, nonempty? configuration.serverUrl = some url

theorem complete_of_check (h : configuration.check = .ok ()) : configuration.Complete := by
  unfold check at h
  unfold Complete
  cases flow : configuration.flow with
  | authorizationCode =>
      show ∃ clientId, nonempty? configuration.clientId = some clientId
      rw [flow] at h
      cases given : nonempty? configuration.clientId with
      | some clientId => exact ⟨clientId, rfl⟩
      | none =>
          have refused : configuration.checkAuthorizationCode =
              .error (.configuration .clientIdMissing) := by
            unfold checkAuthorizationCode
            rw [given]
            rfl
          rw [refused] at h
          cases h
  | delegated =>
      show ∃ url, nonempty? configuration.serverUrl = some url
      rw [flow] at h
      cases given : nonempty? configuration.serverUrl with
      | some url => exact ⟨url, rfl⟩
      | none =>
          have refused : configuration.checkDelegated =
              .error (.configuration .serverUrlMissing) := by
            unfold checkDelegated
            rw [given]
            rfl
          rw [refused] at h
          cases h

/-- The configuration of these settings with a flow, which is not checked. -/
def unchecked (settings : Settings) (flow : Flow) : Configuration :=
  ⟨flow, settings.tokenUri, settings.authorizationUrl, settings.issuer, settings.clientId,
    settings.clientSecret, settings.scope, settings.serverUrl, settings.disableVerification⟩

theorem ofSettings_of_read {settings : Settings} {flow : Flow}
    (read : Flow.read settings.flow = .ok flow) :
    ofSettings settings =
      (unchecked settings flow).check.map fun _ => unchecked settings flow := by
  unfold ofSettings
  rw [read]
  show ((unchecked settings flow).check >>= fun _ => pure (unchecked settings flow)) = _
  cases (unchecked settings flow).check <;> rfl

/-- Whatever is accepted is complete. -/
theorem complete_of_ofSettings {settings : Settings}
    (accepted : ofSettings settings = .ok configuration) : configuration.Complete := by
  cases read : Flow.read settings.flow with
  | error cause =>
      have refused : ofSettings settings = .error (.configuration cause) := by
        unfold ofSettings
        rw [read]
        rfl
      rw [refused] at accepted
      cases accepted
  | ok flow =>
      rw [ofSettings_of_read read] at accepted
      cases checked : (unchecked settings flow).check with
      | error fault =>
          rw [checked] at accepted
          cases accepted
      | ok _ =>
          rw [checked] at accepted
          obtain rfl : unchecked settings flow = configuration := Except.ok.inj accepted
          exact complete_of_check checked

/-- The check of an address fails with it, or because it cannot be read. -/
theorem checkUrl_of_error {setting : Setting} {url : String} {fault : Fault}
    (h : checkUrl setting (some url) = .error fault) :
    (∃ cause, fault = .failure cause) ∨ ∃ cause, Url.split url = .error cause ∧
      fault = .address cause := by
  unfold checkUrl at h
  split at h
  · cases h
  · rename_i text given
    obtain rfl : url = text := Option.some.inj (nonempty?_eq_some_iff.mp given).1
    split at h
    · rename_i cause unread
      exact .inr ⟨cause, unread, (Except.error.inj h).symm⟩
    · split at h
      · cases h
      · exact .inl ⟨_, (Except.error.inj h).symm⟩

theorem replacement?_eq_some {advertised : Option String} {url : String}
    (h : configuration.replacement? advertised = some url) :
    configuration.flow = .delegated ∧ advertised = some url ∧ url ≠ "" := by
  unfold replacement? at h
  split at h
  · cases h
  · rename_i delegated
    obtain ⟨given, -⟩ := Option.filter_eq_some_iff.mp h
    obtain ⟨here, full⟩ := nonempty?_eq_some_iff.mp given
    exact ⟨delegated, here, full⟩

theorem withAdvertised_of_none {advertised : Option String}
    (kept : configuration.replacement? advertised = none) :
    configuration.withAdvertised advertised = .ok configuration := by
  unfold withAdvertised
  rw [kept]

/-- A login with a code does not look at an advertised address. -/
theorem withAdvertised_of_code (code : configuration.flow = .authorizationCode)
    (advertised : Option String) : configuration.withAdvertised advertised = .ok configuration := by
  apply withAdvertised_of_none
  unfold replacement?
  rw [code]

theorem withAdvertised_none : configuration.withAdvertised none = .ok configuration := by
  apply withAdvertised_of_none
  unfold replacement?
  cases configuration.flow <;> rfl

/-- An advertised address is checked like a configured one, and nothing but this one is checked
again. -/
theorem withAdvertised_of_some {advertised : Option String} {url : String}
    (replaced : configuration.replacement? advertised = some url) :
    configuration.withAdvertised advertised =
      (checkUrl .serverUrl (some url)).map fun _ =>
        { configuration with serverUrl := some url } := by
  obtain ⟨delegated, -, full⟩ := replacement?_eq_some replaced
  let settings : Settings := { configuration.settings with serverUrl := some url }
  have read : Flow.read settings.flow = .ok .delegated := by
    show Flow.read (some configuration.flow.name) = _
    rw [delegated]
    rfl
  have made : unchecked settings .delegated = { configuration with serverUrl := some url } := by
    rw [← delegated]
    rfl
  have given : nonempty? (some url) = some url := nonempty?_eq_some_iff.mpr ⟨rfl, full⟩
  have checked : (unchecked settings .delegated).check = checkUrl .serverUrl (some url) := by
    show (unchecked settings .delegated).checkDelegated = _
    unfold checkDelegated
    rw [show (unchecked settings .delegated).serverUrl = some url from rfl, given]
    rfl
  unfold withAdvertised
  rw [replaced]
  show ofSettings settings = _
  rw [ofSettings_of_read read, checked, made]

theorem withAdvertised_of_error {advertised : Option String} {fault : Fault}
    (h : configuration.withAdvertised advertised = .error fault) :
    (∃ cause, fault = .failure cause) ∨ ∃ url cause, advertised = some url ∧
      Url.split url = .error cause ∧ fault = .address cause := by
  cases replaced : configuration.replacement? advertised with
  | none =>
      rw [withAdvertised_of_none replaced] at h
      cases h
  | some url =>
      obtain ⟨-, here, -⟩ := replacement?_eq_some replaced
      rw [withAdvertised_of_some replaced] at h
      cases unread : checkUrl .serverUrl (some url) with
      | ok _ =>
          rw [unread] at h
          cases h
      | error cause =>
          rw [unread] at h
          obtain rfl : cause = fault := Except.error.inj h
          rcases checkUrl_of_error unread with failed | ⟨cause, unread, fault⟩
          · exact .inl failed
          · exact .inr ⟨url, cause, here, unread, fault⟩

theorem complete_of_withAdvertised {other : Configuration} {advertised : Option String}
    (complete : configuration.Complete)
    (h : configuration.withAdvertised advertised = .ok other) : other.Complete := by
  unfold withAdvertised at h
  split at h
  · rwa [← Except.ok.inj h]
  · exact complete_of_ofSettings h

/-! ## Providers -/

/-- The provider of a login at these endpoints. -/
def providerAt (configuration : Configuration) (options : Options) (endpoints : Endpoints) :
    CodeProvider where
  authorizationEndpoint := endpoints.authorization
  tokenEndpoint := endpoints.token
  clientId := configuration.clientId.getD ""
  clientSecret := configuration.clientSecret
  scope := configuration.scope
  callbackTimeout := options.callbackTimeout
  verifierLength := ProofKey.defaultLength

/-- No argument of a provider is missing: a complete configuration lacks nothing but endpoints. -/
theorem codeProvider_eq (complete : configuration.Complete)
    (code : configuration.flow = .authorizationCode) (options : Options) :
    configuration.codeProvider options =
      (fun endpoints => Provider.code (configuration.providerAt options endpoints)) <$>
        configuration.endpoints := by
  unfold Complete at complete
  rw [code] at complete
  obtain ⟨clientId, given⟩ := complete
  obtain ⟨here, full⟩ := nonempty?_eq_some_iff.mp given
  have client : configuration.clientId.getD "" ≠ "" := by
    rw [here]
    exact full
  funext world
  rw [codeProvider, Act.bind_apply, Act.map_apply]
  rcases came : configuration.endpoints world with ⟨fault | endpoints, after⟩
  · rfl
  · have known := configuration.endpoints_gives world endpoints (by rw [came])
    simp only [CodeProvider.check, known.authorization, known.token, client, if_false]
    rfl

theorem codeProvider_accounts (complete : configuration.Complete)
    (code : configuration.flow = .authorizationCode) (options : Options) :
    Accounts [] (configuration.codeProvider options) := by
  rw [codeProvider_eq complete code]
  exact configuration.endpoints_accounts.map _

/-- The provider of a delegated login with the service at this address. -/
def serviceAt (configuration : Configuration) (options : Options) (base : String) :
    DelegatedProvider where
  baseUrl := Url.withoutTrailingSlashes base
  disableVerification := configuration.disableVerification
  pollInterval := options.pollInterval
  pollTimeout := options.pollTimeout

theorem delegatedProvider_eq {base : String} (given : configuration.serverUrl = some base)
    (full : base ≠ "") (options : Options) :
    configuration.delegatedProvider options =
      pure (Provider.delegated (configuration.serviceAt options base)) := by
  funext world
  rw [delegatedProvider, given, Option.getD_some, DelegatedProvider.create, if_neg full]
  rfl

theorem delegatedProvider_accounts (complete : configuration.Complete)
    (delegated : configuration.flow = .delegated) (options : Options) :
    Accounts [] (configuration.delegatedProvider options) := by
  unfold Complete at complete
  rw [delegated] at complete
  obtain ⟨url, given⟩ := complete
  obtain ⟨here, full⟩ := nonempty?_eq_some_iff.mp given
  rw [delegatedProvider_eq here full]
  exact .pure _

theorem provider_accounts (complete : configuration.Complete) (options : Options) :
    Accounts [] (configuration.provider options) := by
  unfold provider
  split
  · rename_i code
    exact codeProvider_accounts complete code options
  · rename_i delegated
    exact delegatedProvider_accounts complete delegated options

/-- A provider waits for amounts of the options, and draws verifiers of the usual length. -/
theorem provider_gives (configuration : Configuration) (options : Options) :
    Act.Gives (fun provider => provider.Fits ∧ provider.waits ⊆ options.waits)
      (configuration.provider options) := by
  unfold provider
  split
  · refine .bind_snd fun endpoints => .map (.lift fun made checked => ?_) fun made fits => fits
    unfold CodeProvider.check at checked
    split at checked
    · cases checked
    · split at checked
      · cases checked
      · split at checked
        · cases checked
        · obtain rfl := Except.ok.inj checked
          have length : (ProofKey.minLength : Int) ≤ ProofKey.defaultLength ∧
              (ProofKey.defaultLength : Int) ≤ ProofKey.maxLength := by decide
          exact ⟨length, List.cons_subset_cons _ (List.nil_subset _)⟩
  · refine .map (.lift fun made created => ?_) fun made fits => fits
    unfold DelegatedProvider.create at created
    split at created
    · cases created
    · obtain rfl := Except.ok.inj created
      exact ⟨trivial, List.subset_cons_self _ _⟩

/-! ## Accounts -/

variable {advertised : Option String} {options : Options} {agent after : Agent}

/-- Nothing is opened for an address that is refused. -/
theorem account_of_refused {fault : Fault}
    (refused : configuration.withAdvertised advertised = .error fault) (options : Options)
    (agent : Agent) : configuration.account advertised options agent = (.error fault, agent) := by
  have stopped : (Act.lift (configuration.withAdvertised advertised) : AgentAct _) agent =
      (.error fault, agent) := by
    rw [Act.lift_apply, refused]
  exact Act.bind_of_error stopped

/-- Opening an account stops at what is accounted for, or at an advertised address that
cannot be read. -/
theorem account_of_error (complete : configuration.Complete) {fault : Fault}
    (h : configuration.account advertised options agent = (.error fault, after)) :
    Accounted [] (agent.world.asked after.world) fault ∨
      ∃ url cause, advertised = some url ∧ Url.split url = .error cause ∧
        fault = .address cause := by
  cases replaced : configuration.withAdvertised advertised with
  | error cause =>
      rw [account_of_refused replaced] at h
      obtain rfl : cause = fault := Except.error.inj (Prod.mk.inj h).1
      rcases withAdvertised_of_error replaced with ⟨cause, rfl⟩ | unread
      · exact .inl (.failure cause)
      · exact .inr unread
  | ok other =>
      unfold account at h
      have gone : (Act.lift (configuration.withAdvertised advertised) : AgentAct _) agent =
          (.ok other, agent) := by
        rw [Act.lift_apply, replaced]
      rw [Act.bind_of_ok gone] at h
      obtain ⟨entries, asks, accounted⟩ :=
        provider_accounts (complete_of_withAdvertised complete replaced) options agent.world
      rcases made : other.provider options agent.world with ⟨cause | provider, world⟩
      · rw [Act.bind_of_error (Agent.inWorld_of made)] at h
        obtain ⟨same, rfl⟩ := Prod.mk.inj h
        obtain rfl : cause = fault := Except.error.inj same
        rw [made] at asks accounted
        left
        rw [asks.asked_eq]
        exact accounted cause rfl
      · rw [Act.bind_of_ok (Agent.inWorld_of made)] at h
        cases h

/-- The account that is opened for a delegated login. -/
def serviceAccount (configuration : Configuration) (options : Options) (base : String)
    (agent : Agent) : Account :=
  ⟨.delegated (configuration.serviceAt options base),
    (agent.vault.cellFor options.cache (configuration.serviceAt options base).cacheKey).1⟩

/-- A delegated login is opened without the network, and the vault has a cell for it then. -/
theorem account_of_delegated {other : Configuration}
    (replaced : configuration.withAdvertised advertised = .ok other)
    (delegated : other.flow = .delegated) {base : String} (given : other.serverUrl = some base)
    (full : base ≠ "") (options : Options) (agent : Agent) :
    configuration.account advertised options agent =
      (.ok (other.serviceAccount options base agent),
        { agent with
          vault := (agent.vault.cellFor options.cache
            (other.serviceAt options base).cacheKey).2 }) := by
  have made : other.provider options = pure (.delegated (other.serviceAt options base)) := by
    unfold provider
    rw [delegated]
    exact delegatedProvider_eq given full options
  unfold account
  rw [replaced]
  show (Agent.inWorld (other.provider options) >>= Account.ofProvider options.cache) agent = _
  rw [made]
  rfl

theorem account_gives (configuration : Configuration) (advertised : Option String)
    (options : Options) :
    Act.Gives (fun account => account.provider.Fits ∧ account.provider.waits ⊆ options.waits)
      (configuration.account advertised options) := by
  unfold account
  refine .bind_snd fun other => ?_
  have opened : Act.Gives (fun provider => provider.Fits ∧ provider.waits ⊆ options.waits)
      (Agent.inWorld (other.provider options)) :=
    fun agent provider made => other.provider_gives options agent.world provider made
  refine opened.bind fun provider fits agent account came => ?_
  obtain rfl := Except.ok.inj came
  exact fits

end Configuration

end TokenFlow
