/-
# TokenFlow.Proofs.IssuerMetadata -- what becomes of the answer of an issuer

An issuer is asked once, and what comes of it is told by the answer of the network: a response
that publishes both endpoints gives them as they are, one that publishes a document without
them is a matter of the configuration, and every other response and every transport failure is
a failure of the discovery.  A response publishes a document when its final status is 200 and
its body describes an issuer field by field (`Publishes`).  What is no answer at all is passed
on (`World.Stopped`); a redirect that nothing can be sent to is enough for it.
-/
import TokenFlow.Proofs.BaseAddress
import TokenFlow.Proofs.DocumentFields
import TokenFlow.Proofs.StoppedRequests

namespace TokenFlow

set_option autoImplicit false

open TokenFlow.World
open TokenFlow.Document (Metadata)

/-! ## Addresses -/

/-- Without its slashes an address does not end in a slash. -/
theorem Url.getLast?_withoutTrailingSlashes (text : String) :
    (withoutTrailingSlashes text).toList.getLast? ≠ some '/' := by
  intro slashed
  rw [withoutTrailingSlashes, String.toList_ofList, Text.trimRight, List.getLast?_reverse]
    at slashed
  have kept := List.head?_dropWhile_not (fun c => decide (c = '/')) text.toList.reverse
  rw [slashed] at kept
  cases kept

namespace Discovery

variable {issuer : String} {response : Http.Response} {metadata : Metadata} {found : Endpoints}

/-! ## Documents -/

/-- A response publishes a metadata document. -/
def Publishes (response : Http.Response) (metadata : Metadata) : Prop :=
  response.status = 200 ∧
    ∃ fields, Json.Value.ofOctets? response.body = some (.object fields) ∧
      metadata.Describes fields

/-- The first endpoint that a document lacks. -/
inductive Lacks (metadata : Metadata) : Endpoint → Prop
  | authorization (missing : nonempty? metadata.authorizationEndpoint = none) :
      Lacks metadata .authorization
  | token (present : nonempty? metadata.authorizationEndpoint ≠ none)
      (missing : nonempty? metadata.tokenEndpoint = none) : Lacks metadata .token

theorem publishes_iff :
    Publishes response metadata ↔
      response.status = 200 ∧ Metadata.ofBody response.body = .ok metadata := by
  rw [Publishes, Metadata.ofBody_eq_ok_iff]

/-- The endpoints of a document are those that it publishes, to the letter. -/
theorem endpointsOf_eq_ok_iff :
    endpointsOf issuer metadata = .ok found ↔
      (metadata.authorizationEndpoint = some found.authorization ∧ found.authorization ≠ "") ∧
        metadata.tokenEndpoint = some found.token ∧ found.token ≠ "" := by
  rw [← nonempty?_eq_some_iff, ← nonempty?_eq_some_iff]
  rcases endpointsOf_cases issuer metadata with
    ⟨authorization, token, first, second, both⟩ | ⟨⟨cause, refused⟩, incomplete⟩
  · rw [both, first, second]
    constructor
    · intro same
      cases same
      exact ⟨rfl, rfl⟩
    · rintro ⟨same, same'⟩
      cases same
      cases same'
      rfl
  · rw [refused]
    constructor
    · intro given
      cases given
    · rintro ⟨first, second⟩
      refine absurd ⟨?_, ?_⟩ incomplete
      · rw [first]
        exact Option.some_ne_none _
      · rw [second]
        exact Option.some_ne_none _

theorem endpointsOf_of_lacks {missing : Endpoint} (lacks : Lacks metadata missing) :
    endpointsOf issuer metadata = .error (.endpointUnpublished issuer missing) := by
  unfold endpointsOf
  cases lacks with
  | authorization missing => rw [missing]
  | token present missing =>
      obtain ⟨authorization, first⟩ := Option.ne_none_iff_exists'.mp present
      rw [first]
      dsimp only
      rw [missing]

/-! ## Answers -/

theorem published_of_publishes (publishes : Publishes response metadata) :
    published issuer (.ok (.ok response)) =
      (endpointsOf issuer metadata).mapError Fault.configuration := by
  obtain ⟨fine, read⟩ := publishes_iff.mp publishes
  exact published_of_metadata fine read

/-- A response that publishes nothing is told by its status. -/
theorem published_of_unpublished (issuer : String)
    (unpublished : ∀ metadata, ¬ Publishes response metadata) :
    ∃ cause, published issuer (.ok (.ok response)) = .error (.failure (.discovery cause)) ∧
      cause.issuer = issuer ∧ cause.status? = some response.status := by
  by_cases fine : response.status = 200
  · cases read : Metadata.ofBody response.body with
    | ok metadata => exact absurd (publishes_iff.mpr ⟨fine, read⟩) (unpublished metadata)
    | error issues =>
        refine ⟨.invalid issuer response.status issues, ?_, rfl, rfl⟩
        simp only [published, conclude, metadataOf, fine, if_true, read]
        rfl
  · refine ⟨.status issuer response.status, ?_, rfl, rfl⟩
    simp only [published, conclude, metadataOf, fine, if_false]
    rfl

theorem published_eq_ok_iff {answer : Except Fault (Except String Http.Response)} :
    published issuer answer = .ok found ↔
      ∃ response metadata, answer = .ok (.ok response) ∧ Publishes response metadata ∧
        (metadata.authorizationEndpoint = some found.authorization ∧
          found.authorization ≠ "") ∧
        metadata.tokenEndpoint = some found.token ∧ found.token ≠ "" := by
  constructor
  · intro came
    rcases answer with fault | detail | response
    · cases came
    · cases came
    · by_cases published : ∃ metadata, Publishes response metadata
      · obtain ⟨metadata, publishes⟩ := published
        rw [published_of_publishes publishes] at came
        cases given : endpointsOf issuer metadata with
        | error cause =>
            rw [given] at came
            cases came
        | ok found' =>
            rw [given] at came
            obtain rfl := Except.ok.inj came
            exact ⟨response, metadata, rfl, publishes, endpointsOf_eq_ok_iff.mp given⟩
      · obtain ⟨cause, refused, -⟩ :=
          published_of_unpublished issuer (not_exists.mp published)
        rw [refused] at came
        cases came
  · rintro ⟨response, metadata, rfl, publishes, both⟩
    rw [published_of_publishes publishes, endpointsOf_eq_ok_iff.mpr both]
    rfl

/-! ## Discovery -/

/-- An issuer is asked with one request at its address, less the slashes at the end of it.
There are endpoints exactly when the final response publishes both, and they are the published
ones.  A published document without one of them is a matter of the configuration, and names
the first that it lacks.  Every other response and every transport failure is told as a failure
of the discovery of this issuer, with the status if there is one.  A fault of the network is
passed on, and has to do with the address or with a response on the way. -/
theorem endpoints_told_by_answer (issuer : String) (world : World) :
    ∃ base slashes redirects answer,
      issuer.toList = base.toList ++ slashes ∧ (∀ c ∈ slashes, c = '/') ∧
      base.toList.getLast? ≠ some '/' ∧
      request issuer = ⟨.get, base ++ "/.well-known/openid-configuration", none,
        [("accept", "application/json")]⟩ ∧
      (∀ event ∈ redirects, Event.IsRedirect event) ∧
      (endpoints issuer world).2.trace =
        world.trace ++ (.client (.create none true) :: .request (request issuer) :: redirects) ∧
      answer = (consult (request issuer) world.replies).1 ∧
      (∀ found, (endpoints issuer world).1 = .ok found ↔
        ∃ response metadata, answer = .ok (.ok response) ∧ Publishes response metadata ∧
          (metadata.authorizationEndpoint = some found.authorization ∧
            found.authorization ≠ "") ∧
          metadata.tokenEndpoint = some found.token ∧ found.token ≠ "") ∧
      (∀ response metadata missing, answer = .ok (.ok response) →
        Publishes response metadata → Lacks metadata missing →
        ∃ cause, (endpoints issuer world).1 = .error (.failure (.configuration cause)) ∧
          cause.setting = .issuer ∧ cause.missing? = some missing) ∧
      (∀ response, answer = .ok (.ok response) →
        (∀ metadata, ¬ Publishes response metadata) →
        ∃ cause, (endpoints issuer world).1 = .error (.failure (.discovery cause)) ∧
          cause.issuer = issuer ∧ cause.status? = some response.status) ∧
      (∀ detail, answer = .ok (.error detail) →
        ∃ cause, (endpoints issuer world).1 = .error (.failure (.discovery cause)) ∧
          cause.issuer = issuer ∧ cause.status? = none) ∧
      ∀ fault, answer = .error fault →
        (endpoints issuer world).1 = .error fault ∧
          Stopped world.replies (request issuer).url fault := by
  obtain ⟨slashes, written, only⟩ := Url.exists_slashes issuer
  obtain ⟨replies, log, redirects, moved, asked⟩ := endpoints_apply issuer world
  have fetched := (fetch_eq_consult (request issuer) world).1
  have result := congrArg Prod.fst asked
  have trace := congrArg (fun after => after.2.trace) asked
  dsimp only at result trace
  generalize (consult (request issuer) world.replies).1 = answer at fetched result
  refine ⟨Url.withoutTrailingSlashes issuer, slashes, redirects, answer, written, only,
    Url.getLast?_withoutTrailingSlashes issuer, rfl, moved, trace, rfl, ?given, ?lacking,
    ?unpublished, ?unreachable, ?stopped⟩
  case given =>
    intro found
    rw [result]
    exact published_eq_ok_iff
  case lacking =>
    intro response metadata missing told publishes lacks
    refine ⟨.endpointUnpublished issuer missing, ?_, rfl, rfl⟩
    rw [result, told, published_of_publishes publishes, endpointsOf_of_lacks lacks]
    rfl
  case unpublished =>
    intro response told unpublished
    rw [result, told]
    exact published_of_unpublished issuer unpublished
  case unreachable =>
    intro detail told
    refine ⟨.unreachable issuer detail, ?_, rfl, rfl⟩
    rw [result, told]
    rfl
  case stopped =>
    intro fault told
    constructor
    · rw [result, told]
      rfl
    · exact fetch_of_fault (fetched.trans told)

/-- An issuer that redirects to the document at another address. -/
def movedIssuer : World :=
  { World.quiet (.exactly 1000) (.ofSeed 1) with
    replies := [.response ⟨301, [("Location", "/moved")], [], none⟩,
      .response (Configuration.publishing ", \"token_endpoint\": \"https://idp.example/token\"")] }

theorem endpoints_told_by_answer_moved :
    (endpoints "https://idp.example//" movedIssuer).1 =
        .ok ⟨"https://idp.example/auth", "https://idp.example/token"⟩ ∧
      ∃ response metadata,
        (consult (request "https://idp.example//") movedIssuer.replies).1 = .ok (.ok response) ∧
        Publishes response metadata ∧
        metadata.tokenEndpoint = some "https://idp.example/token" := by
  have came : (endpoints "https://idp.example//" movedIssuer).1 =
      .ok ⟨"https://idp.example/auth", "https://idp.example/token"⟩ := by
    decide +kernel
  obtain ⟨-, -, -, answer, -, -, -, -, -, -, rfl, given, -⟩ :=
    endpoints_told_by_answer "https://idp.example//" movedIssuer
  obtain ⟨response, metadata, told, publishes, -, token, -⟩ := (given _).mp came
  exact ⟨came, response, metadata, told, publishes, token⟩

/-- An issuer that redirects to a host that is spelled like an international one. -/
def misleadingIssuer : World :=
  { World.quiet (.exactly 1000) (.ofSeed 1) with
    replies := [.response ⟨302, [("Location", "https://xn--.example/")], [], none⟩] }

/-- Its own address is fine, and what becomes of the redirect is neither endpoints nor a failure
of the configuration or the discovery. -/
theorem redirect_escapes_discovery :
    ¬ ∀ (issuer : String) (world : World), Url.IsRequestable (request issuer).url →
      (∃ found, (endpoints issuer world).1 = .ok found) ∨
        (∃ cause, (endpoints issuer world).1 = .error (.failure (.configuration cause))) ∨
        ∃ cause, (endpoints issuer world).1 = .error (.failure (.discovery cause)) := by
  intro claimed
  have requestable : Url.IsRequestable (request "https://idp.example").url := by decide +kernel
  have escaped : (endpoints "https://idp.example" misleadingIssuer).1 =
      .error (.hostName .form) := by
    decide +kernel
  rcases claimed "https://idp.example" misleadingIssuer requestable with
    ⟨found, came⟩ | ⟨cause, came⟩ | ⟨cause, came⟩
  · cases escaped.symm.trans came
  · cases escaped.symm.trans came
  · cases escaped.symm.trans came

end Discovery

end TokenFlow
