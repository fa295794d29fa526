/-
# TokenFlow.Proofs.EndpointSources -- where the endpoints of a login come from

Endpoints are given by the settings or published by the issuer.  The issuer is asked only
when it can help: one is known, and an endpoint is missing (`issuerToAsk?`).  Then it is
asked once, and what it answers decides (`Discovery.endpoints_apply`).  An endpoint that is
given goes before the published one, but a document is read as a whole: it has to publish
both, also when only one of them is used (`opensWhen_of_metadata`).
-/
import Mathlib.Data.List.Basic
import TokenFlow.Proofs.Opening

namespace TokenFlow

set_option autoImplicit false

open TokenFlow.Number TokenFlow.World
open TokenFlow.Document (Metadata)

/-! ## Discovery -/

namespace Discovery

/-- The request for the metadata of an issuer. -/
def request (issuer : String) : Http.Request :=
  { Http.Request.get (metadataUrl issuer) with headers }

/-- What the endpoints are, as far as this answer of the network tells. -/
def published (issuer : String) : Except Fault (Except String Http.Response) →
    Except Fault Endpoints
  | .error fault => .error fault
  | .ok reply => (conclude issuer reply).mapError Fault.failure

/-- An issuer is asked with one request, whose answer decides. -/
theorem endpoints_apply (issuer : String) (world : World) :
    ∃ replies log redirects, (∀ event ∈ redirects, Event.IsRedirect event) ∧
      endpoints issuer world =
        (published issuer (consult (request issuer) world.replies).1,
          { world with
            replies
            log
            trace := world.trace ++
              (.client (.create none true) :: .request (request issuer) :: redirects) }) := by
  let before : World := (world.note .debug .discovery
    ("Fetching OIDC discovery document from " ++ metadataUrl issuer)).record
      (.client (.create none true))
  obtain ⟨replies, redirects, only, fetched⟩ := fetch_frame (request issuer) before
  have answered : (fetch (request issuer) before).1 = (consult (request issuer) world.replies).1 :=
    (fetch_eq_consult (request issuer) before).1
  refine ⟨replies, before.log, redirects, only, ?_⟩
  have opened : endpoints issuer world =
      (published issuer (fetch (request issuer) before).1, (fetch (request issuer) before).2) := by
    simp only [endpoints, Act.bind_apply, write, newClient, emit, Act.update_apply]
    rw [show ({ Http.Request.get (metadataUrl issuer) with headers } : Http.Request) =
      request issuer from rfl]
    rcases fetch (request issuer) before with ⟨fault | reply, last⟩
    · rfl
    · simp only [published]
      cases conclude issuer reply <;> rfl
  rw [opened, answered, fetched]
  simp [before, record, note]

/-- A document tells the endpoints when it has both of them, and only then. -/
theorem endpointsOf_cases (issuer : String) (metadata : Metadata) :
    (∃ authorization token, nonempty? metadata.authorizationEndpoint = some authorization ∧
        nonempty? metadata.tokenEndpoint = some token ∧
        endpointsOf issuer metadata = .ok ⟨authorization, token⟩) ∨
      (∃ cause, endpointsOf issuer metadata = .error cause) ∧
        ¬ (nonempty? metadata.authorizationEndpoint ≠ none ∧
          nonempty? metadata.tokenEndpoint ≠ none) := by
  unfold endpointsOf
  cases nonempty? metadata.authorizationEndpoint with
  | none => exact .inr ⟨⟨_, rfl⟩, fun both => both.1 rfl⟩
  | some authorization =>
      cases nonempty? metadata.tokenEndpoint with
      | none => exact .inr ⟨⟨_, rfl⟩, fun both => both.2 rfl⟩
      | some token => exact .inl ⟨authorization, token, rfl, rfl, rfl⟩

/-- With a document at hand, nothing but the two endpoints in it matters. -/
theorem published_of_metadata {issuer : String} {response : Http.Response} {metadata : Metadata}
    (fine : response.status = 200) (read : Metadata.ofBody response.body = .ok metadata) :
    published issuer (.ok (.ok response)) =
      (endpointsOf issuer metadata).mapError Fault.configuration := by
  simp only [published, conclude, metadataOf, fine, if_true, read]
  cases endpointsOf issuer metadata <;> rfl

end Discovery

namespace Configuration

open TokenFlow.Discovery (Endpoints)

/-! ## Endpoints -/

section

variable (configuration : Configuration)

/-- The issuer, when one is known and an endpoint is missing. -/
def issuerToAsk? : Option String :=
  if (nonempty? configuration.authorizationUrl).isSome
      && (nonempty? configuration.tokenUri).isSome then none
  else nonempty? configuration.issuer

/-- Nobody is asked when both endpoints are given, or when there is nobody to ask. -/
theorem issuerToAsk?_eq_none_iff :
    configuration.issuerToAsk? = none ↔
      (nonempty? configuration.authorizationUrl ≠ none ∧ nonempty? configuration.tokenUri ≠ none) ∨
        nonempty? configuration.issuer = none := by
  unfold issuerToAsk?
  cases nonempty? configuration.authorizationUrl <;> cases nonempty? configuration.tokenUri <;>
    simp

theorem issuerToAsk?_of_missing
    (missing : ¬ (nonempty? configuration.authorizationUrl ≠ none ∧
      nonempty? configuration.tokenUri ≠ none)) :
    configuration.issuerToAsk? = nonempty? configuration.issuer := by
  unfold issuerToAsk?
  refine if_neg fun both => missing ?_
  rw [Bool.and_eq_true, Option.isSome_iff_ne_none, Option.isSome_iff_ne_none] at both
  exact both

/-- The endpoints to log in at, when these were discovered. -/
def chosen (found : Option Endpoints) : Except Fault Endpoints :=
  match endpointOr configuration.authorizationUrl (found.map (·.authorization)) with
  | none => .error (.configuration .authorizationEndpointUnknown)
  | some authorization =>
      match endpointOr configuration.tokenUri (found.map (·.token)) with
      | none => .error (.configuration .tokenEndpointUnknown)
      | some token => .ok ⟨authorization, token⟩

theorem discovered_eq :
    configuration.discovered =
      match configuration.issuerToAsk? with
      | none => pure none
      | some issuer => some <$> Discovery.endpoints issuer := by
  unfold discovered issuerToAsk?
  split
  · rfl
  · cases nonempty? configuration.issuer <;> rfl

theorem endpoints_eq :
    configuration.endpoints =
      configuration.discovered >>= fun found => Act.lift (configuration.chosen found) := by
  unfold endpoints
  congr 1
  funext found
  unfold chosen
  cases endpointOr configuration.authorizationUrl (found.map (·.authorization)) with
  | none => rfl
  | some authorization =>
      cases endpointOr configuration.tokenUri (found.map (·.token)) <;> rfl

theorem endpointOr_some (explicit : Option String) (published : String) :
    endpointOr explicit (some published) = some ((nonempty? explicit).getD published) := by
  unfold endpointOr
  cases nonempty? explicit <;> rfl

/-- What is given goes before what is published, one by one. -/
theorem chosen_some (found : Endpoints) :
    configuration.chosen (some found) = .ok
      ⟨(nonempty? configuration.authorizationUrl).getD found.authorization,
        (nonempty? configuration.tokenUri).getD found.token⟩ := by
  simp only [chosen, Option.map_some, endpointOr_some]

/-- Without a document, both endpoints have to be given. -/
theorem chosen_none :
    (∃ endpoints, configuration.chosen none = .ok endpoints) ∧
        nonempty? configuration.authorizationUrl ≠ none ∧ nonempty? configuration.tokenUri ≠ none ∨
      (∃ cause, configuration.chosen none = .error (.configuration cause)) ∧
        ¬ (nonempty? configuration.authorizationUrl ≠ none ∧
          nonempty? configuration.tokenUri ≠ none) := by
  unfold chosen endpointOr
  cases nonempty? configuration.authorizationUrl with
  | none => exact .inr ⟨⟨_, rfl⟩, fun both => both.1 rfl⟩
  | some authorization =>
      cases nonempty? configuration.tokenUri with
      | none => exact .inr ⟨⟨_, rfl⟩, fun both => both.2 rfl⟩
      | some token => exact .inl ⟨⟨_, rfl⟩, nofun, nofun⟩

/-- Endpoints that were chosen are the given ones, where they are given. -/
theorem given_of_chosen {found : Option Endpoints} {endpoints : Endpoints}
    (h : configuration.chosen found = .ok endpoints) :
    (∀ url, nonempty? configuration.authorizationUrl = some url → endpoints.authorization = url) ∧
      ∀ url, nonempty? configuration.tokenUri = some url → endpoints.token = url := by
  unfold chosen at h
  split at h
  · cases h
  · rename_i authorization first
    split at h
    · cases h
    · rename_i token second
      obtain rfl := Except.ok.inj h
      refine ⟨fun url given => ?_, fun url given => ?_⟩
      · rw [endpointOr, given] at first
        exact (Option.some.inj first).symm
      · rw [endpointOr, given] at second
        exact (Option.some.inj second).symm

theorem endpoints_given :
    Act.Gives (fun endpoints =>
      (∀ url, nonempty? configuration.authorizationUrl = some url →
        endpoints.authorization = url) ∧
      ∀ url, nonempty? configuration.tokenUri = some url → endpoints.token = url)
      configuration.endpoints := by
  rw [endpoints_eq]
  exact .bind_snd fun found => .lift fun endpoints came => configuration.given_of_chosen came

variable {configuration}

theorem endpoints_of_unasked (silent : configuration.issuerToAsk? = none) (world : World) :
    configuration.endpoints world = (configuration.chosen none, world) := by
  rw [endpoints_eq, discovered_eq, silent]
  rfl

theorem endpoints_of_asked {issuer : String} (asks : configuration.issuerToAsk? = some issuer)
    (world : World) :
    configuration.endpoints world =
      ((Discovery.endpoints issuer world).1.bind fun found => configuration.chosen (some found),
        (Discovery.endpoints issuer world).2) := by
  have found : configuration.discovered = some <$> Discovery.endpoints issuer := by
    rw [discovered_eq, asks]
  rw [endpoints_eq, found, Act.bind_apply, Act.map_apply]
  rcases Discovery.endpoints issuer world with ⟨fault | found, after⟩ <;> rfl

end

/-! ## Account -/

/-- The account that is opened for a provider. -/
def accountAt (vault : Vault) (options : Options) (provider : CodeProvider) : Account :=
  ⟨.code provider, (vault.cellFor options.cache provider.cacheKey).1⟩

variable {configuration : Configuration}

/-- Opening an account of a login with a code is finding its endpoints. -/
theorem account_of_code (complete : configuration.Complete)
    (code : configuration.flow = .authorizationCode) (advertised : Option String)
    (options : Options) (agent : Agent) :
    (configuration.account advertised options agent).1 =
        (configuration.endpoints agent.world).1.map (fun endpoints =>
          accountAt agent.vault options (configuration.providerAt options endpoints)) ∧
      (configuration.account advertised options agent).2.world =
        (configuration.endpoints agent.world).2 := by
  have made : configuration.provider options = configuration.codeProvider options := by
    unfold provider
    rw [code]
  have opened : configuration.account advertised options agent =
      (Agent.inWorld (configuration.provider options) >>= Account.ofProvider options.cache)
        agent := by
    unfold account
    rw [withAdvertised_of_code code]
    rfl
  rw [opened, made, Act.bind_apply, Agent.inWorld, codeProvider_eq complete code, Act.map_apply]
  rcases configuration.endpoints agent.world with ⟨fault | endpoints, after⟩
  · exact ⟨rfl, rfl⟩
  · exact ⟨rfl, rfl⟩

/-- An account comes out exactly under this condition, and otherwise the configuration is to
blame. -/
structure OpensWhen (opened : Except Fault Account) (condition : Prop) : Prop where
  opens_iff : (∃ account, opened = .ok account) ↔ condition
  blames : ¬ condition → ∃ cause, opened = .error (.failure (.configuration cause))

theorem OpensWhen.of_cases {found : Except Fault Endpoints} {make : Endpoints → Account}
    {condition : Prop}
    (cases : (∃ endpoints, found = .ok endpoints) ∧ condition ∨
      (∃ cause, found = .error (.configuration cause)) ∧ ¬ condition) :
    OpensWhen (found.map make) condition := by
  rcases cases with ⟨⟨endpoints, rfl⟩, holds⟩ | ⟨⟨cause, rfl⟩, fails⟩
  · exact ⟨⟨fun _ => holds, fun _ => ⟨_, rfl⟩⟩, fun fails => absurd holds fails⟩
  · exact ⟨⟨nofun, fun holds => absurd holds fails⟩, fun _ => ⟨_, rfl⟩⟩

section

variable {advertised : Option String} {options : Options} {agent : Agent} {issuer : String}
  {response : Http.Response} {metadata : Metadata} (complete : configuration.Complete)
  (code : configuration.flow = .authorizationCode)
  (asks : configuration.issuerToAsk? = some issuer)
  (told : (consult (Discovery.request issuer) agent.world.replies).1 = .ok (.ok response))
  (fine : response.status = 200) (read : Metadata.ofBody response.body = .ok metadata)

include complete code asks told fine read

/-- A document that was fetched decides, together with what is given. -/
theorem account_of_metadata :
    (configuration.account advertised options agent).1 =
      (((Discovery.endpointsOf issuer metadata).mapError Fault.configuration).bind
        fun found => configuration.chosen (some found)).map fun endpoints =>
          accountAt agent.vault options (configuration.providerAt options endpoints) := by
  obtain ⟨replies, log, redirects, -, answered⟩ := Discovery.endpoints_apply issuer agent.world
  obtain ⟨result, -⟩ := account_of_code complete code advertised options agent
  rw [result, endpoints_of_asked asks agent.world, answered, told,
    Discovery.published_of_metadata fine read]

/-- It has to publish both endpoints. -/
theorem opensWhen_of_metadata :
    OpensWhen (configuration.account advertised options agent).1
      (nonempty? metadata.authorizationEndpoint ≠ none ∧
        nonempty? metadata.tokenEndpoint ≠ none) := by
  rw [account_of_metadata complete code asks told fine read]
  rcases Discovery.endpointsOf_cases issuer metadata with
    ⟨first, second, published, published', both⟩ | ⟨⟨cause, refused⟩, lacking⟩
  · rw [both, published, published']
    exact .of_cases (.inl ⟨⟨_, configuration.chosen_some _⟩, nofun, nofun⟩)
  · rw [refused]
    exact .of_cases (.inr ⟨⟨cause, rfl⟩, lacking⟩)

/-- What is given goes before what the document says, one by one. -/
theorem endpoints_of_metadata {account : Account}
    (came : (configuration.account advertised options agent).1 = .ok account) :
    ∃ provider, account.provider = .code provider ∧
      some provider.authorizationEndpoint = (nonempty? configuration.authorizationUrl).or
        (nonempty? metadata.authorizationEndpoint) ∧
      some provider.tokenEndpoint =
        (nonempty? configuration.tokenUri).or (nonempty? metadata.tokenEndpoint) := by
  rw [account_of_metadata complete code asks told fine read] at came
  rcases Discovery.endpointsOf_cases issuer metadata with
    ⟨first, second, published, published', both⟩ | ⟨⟨cause, refused⟩, -⟩
  · rw [both] at came
    have made : (configuration.chosen (some ⟨first, second⟩)).map (fun endpoints =>
        accountAt agent.vault options (configuration.providerAt options endpoints)) =
          .ok account := came
    rw [configuration.chosen_some] at made
    obtain rfl := Except.ok.inj made
    rw [published, published']
    exact ⟨_, rfl, Option.or_some.symm, Option.or_some.symm⟩
  · rw [refused] at came
    cases came

end

/-- **Endpoints are given, or asked of the issuer once.**  The account of an accepted login
with a code is opened without any request when both endpoints are given or no issuer is
known, and then both have to be given.  Otherwise one request goes to the issuer.  If that is
answered with a document, the account is opened exactly when both endpoints are in it, and
it is a matter of the configuration when they are not.  A given endpoint is used as it is,
and a published one in the place of one that is not given. -/
theorem account_asks_issuer_once (settings : Settings) (configuration : Configuration)
    (accepted : ofSettings settings = .ok configuration)
    (code : configuration.flow = .authorizationCode) (advertised : Option String)
    (options : Options) (agent : Agent) :
    let authorization := nonempty? configuration.authorizationUrl
    let token := nonempty? configuration.tokenUri
    let opened := configuration.account advertised options agent
    ((authorization ≠ none ∧ token ≠ none) ∨ nonempty? configuration.issuer = none →
      opened.2.world = agent.world ∧
        OpensWhen opened.1 (authorization ≠ none ∧ token ≠ none)) ∧
    (∀ issuer, ¬ (authorization ≠ none ∧ token ≠ none) →
      nonempty? configuration.issuer = some issuer →
      let request : Http.Request :=
        ⟨.get, Url.withoutTrailingSlashes issuer ++ "/.well-known/openid-configuration", none,
          [("accept", "application/json")]⟩
      (∃ redirects, (∀ event ∈ redirects, Event.IsRedirect event) ∧
        opened.2.world.trace = agent.world.trace ++
          (.client (.create none true) :: .request request :: redirects)) ∧
      ∀ response metadata, (consult request agent.world.replies).1 = .ok (.ok response) →
        response.status = 200 → Metadata.ofBody response.body = .ok metadata →
          OpensWhen opened.1 (nonempty? metadata.authorizationEndpoint ≠ none ∧
            nonempty? metadata.tokenEndpoint ≠ none) ∧
          ∀ account, opened.1 = .ok account → ∃ provider, account.provider = .code provider ∧
            some provider.authorizationEndpoint =
              authorization.or (nonempty? metadata.authorizationEndpoint) ∧
            some provider.tokenEndpoint = token.or (nonempty? metadata.tokenEndpoint)) ∧
    ∀ account, opened.1 = .ok account → ∃ provider, account.provider = .code provider ∧
      (∀ url, authorization = some url → provider.authorizationEndpoint = url) ∧
      ∀ url, token = some url → provider.tokenEndpoint = url := by
  intro authorization token opened
  have complete := complete_of_ofSettings accepted
  obtain ⟨result, world⟩ : opened.1 = _ ∧ opened.2.world = _ :=
    account_of_code complete code advertised options agent
  refine ⟨fun unasked => ?_, fun issuer missing known => ?_, fun account came => ?_⟩
  · have found := endpoints_of_unasked (configuration.issuerToAsk?_eq_none_iff.mpr unasked)
      agent.world
    rw [result, world, found]
    exact ⟨rfl, .of_cases configuration.chosen_none⟩
  · have asks : configuration.issuerToAsk? = some issuer :=
      (configuration.issuerToAsk?_of_missing missing).trans known
    obtain ⟨replies, log, redirects, only, answered⟩ :=
      Discovery.endpoints_apply issuer agent.world
    refine ⟨⟨redirects, only, ?_⟩, fun response metadata told fine read => ⟨?_, ?_⟩⟩
    · rw [world, endpoints_of_asked asks agent.world, answered]
      rfl
    · exact opensWhen_of_metadata complete code asks told fine read
    · exact fun account came => endpoints_of_metadata complete code asks told fine read came
  · -- whether somebody was asked or not, given endpoints are chosen before all others
    rw [result] at came
    rcases chosen : configuration.endpoints agent.world with ⟨fault | endpoints, after⟩
    · rw [chosen] at came
      cases came
    · rw [chosen] at came
      obtain rfl := Except.ok.inj came
      exact ⟨_, rfl, configuration.endpoints_given agent.world endpoints (by rw [chosen])⟩

/-- Settings that leave the authorization endpoint to the issuer. -/
def halfSettings : Settings :=
  { Settings.default with
    flow := some "authorization_code"
    tokenUri := some "https://idp.example/token"
    issuer := some "https://idp.example"
    clientId := some "client" }

def half : Configuration :=
  unchecked halfSettings .authorizationCode

/-- A document with an authorization endpoint, and with what else is written in it. -/
def publishing (more : String) : Http.Response :=
  ⟨200, [], Text.Utf8.encode
    ("\x7b\"authorization_endpoint\": \"https://idp.example/auth\"" ++ more ++ "\x7d").toList,
    none⟩

/-- A caller whose network answers like this, once. -/
def answeredBy (response : Http.Response) : Agent :=
  .start { World.quiet (Binary64.exactly 1000) (.ofSeed 1) with replies := [.response response] }

theorem ofSettings_half : ofSettings halfSettings = .ok half := by
  decide +kernel

theorem read_publishing (more : String) (endpoints : Option String × Option String)
    (h : (Metadata.ofBody (publishing more).body).toOption.map (fun metadata =>
      (nonempty? metadata.authorizationEndpoint, nonempty? metadata.tokenEndpoint)) =
        some endpoints) :
    ∃ metadata, Metadata.ofBody (publishing more).body = .ok metadata ∧
      nonempty? metadata.authorizationEndpoint = endpoints.1 ∧
      nonempty? metadata.tokenEndpoint = endpoints.2 := by
  cases read : Metadata.ofBody (publishing more).body with
  | error issues =>
      rw [read] at h
      cases h
  | ok metadata =>
      rw [read] at h
      obtain rfl := Option.some.inj h
      exact ⟨metadata, rfl, rfl, rfl⟩

/-- The given token endpoint is used, although another one is published. -/
theorem account_of_half :
    ofSettings halfSettings = .ok half ∧ half.flow = .authorizationCode ∧
    ∃ account provider,
      (half.account none .default (answeredBy (publishing
        ", \"token_endpoint\": \"https://idp.example/other\""))).1 = .ok account ∧
      account.provider = .code provider ∧
      provider.authorizationEndpoint = "https://idp.example/auth" ∧
      provider.tokenEndpoint = "https://idp.example/token" := by
  let response := publishing ", \"token_endpoint\": \"https://idp.example/other\""
  obtain ⟨-, asked, -⟩ := account_asks_issuer_once halfSettings half ofSettings_half rfl none
    .default (answeredBy response)
  obtain ⟨-, told⟩ := asked "https://idp.example" (by decide) rfl
  obtain ⟨metadata, read, published, published'⟩ := read_publishing
    ", \"token_endpoint\": \"https://idp.example/other\""
    (some "https://idp.example/auth", some "https://idp.example/other") (by decide +kernel)
  obtain ⟨opens, uses⟩ := told response metadata (by rfl) rfl read
  obtain ⟨account, came⟩ := opens.opens_iff.mpr
    ⟨by rw [published]; exact nofun, by rw [published']; exact nofun⟩
  obtain ⟨provider, code, authorization, token⟩ := uses account came
  rw [published] at authorization
  exact ⟨ofSettings_half, rfl, account, provider, came, code, Option.some.inj authorization,
    Option.some.inj token⟩

/-- A document without a token endpoint is refused, although that endpoint is given. -/
theorem given_endpoint_required :
    ¬ ∀ (settings : Settings) (configuration : Configuration),
      ofSettings settings = .ok configuration → configuration.flow = .authorizationCode →
      ∀ (advertised : Option String) (options : Options) (agent : Agent) (issuer : String),
        ¬ (nonempty? configuration.authorizationUrl ≠ none ∧
            nonempty? configuration.tokenUri ≠ none) →
        nonempty? configuration.issuer = some issuer →
        ∀ (response : Http.Response) (metadata : Metadata),
          (consult (Discovery.request issuer) agent.world.replies).1 = .ok (.ok response) →
          response.status = 200 → Metadata.ofBody response.body = .ok metadata →
            OpensWhen (configuration.account advertised options agent).1
              ((nonempty? configuration.authorizationUrl = none →
                  nonempty? metadata.authorizationEndpoint ≠ none) ∧
                (nonempty? configuration.tokenUri = none →
                  nonempty? metadata.tokenEndpoint ≠ none)) := by
  intro claimed
  obtain ⟨metadata, read, published, missing⟩ := read_publishing ""
    (some "https://idp.example/auth", none) (by decide +kernel)
  have told : (consult (Discovery.request "https://idp.example")
      (answeredBy (publishing "")).world.replies).1 = .ok (.ok (publishing "")) := by rfl
  obtain ⟨account, came⟩ := (claimed halfSettings half ofSettings_half rfl none .default
    (answeredBy (publishing "")) "https://idp.example" (by decide) rfl (publishing "") metadata
    told rfl read).opens_iff.mpr ⟨fun _ => by rw [published]; exact nofun, nofun⟩
  obtain ⟨cause, refused⟩ := (opensWhen_of_metadata (complete_of_ofSettings ofSettings_half) rfl
    rfl told rfl read).blames fun both => both.2 missing
  rw [refused] at came
  cases came

end Configuration

end TokenFlow
