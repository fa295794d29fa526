/-
# TokenFlow.Proofs.BaseAddress -- what is built from an accepted address

Requests go to addresses that are built from a configured one: the slashes at its end are
dropped, and a path is put there.  What is written for such a path holds nothing that ends
a part of an address (`isPathSign`), so the scheme and the location are read as before
(`split_base`).  The path is where it belongs when the base has neither a query nor a
fragment (`IsPlain`).  When it has one of them, the path ends up inside of it, and what is
asked for is the path of the base itself (`extends_of_web`).

A configuration is accepted with or without a query in its address, so both cases occur
(`query_swallows_path`).
-/
import TokenFlow.Proofs.Acceptance
import TokenFlow.Proofs.AddedQuery
import TokenFlow.Proofs.DelegatedCall
import TokenFlow.Proofs.EndpointSources

namespace TokenFlow

set_option autoImplicit false

namespace Url

open TokenFlow.Text

/-! ## Paths that are put behind a base -/

/-- A sign that paths are written with: slashes, and what segments are written with. -/
def isPathSign (sign : Char) : Bool :=
  Percent.isUnreserved sign || sign == '%' || sign == '/'

/-- What is put behind a base: a path of its own. -/
structure IsPath (path : List Char) : Prop where
  slashed : ∃ rest, path = '/' :: rest
  written : ∀ sign ∈ path, isPathSign sign = true

namespace IsPath

variable {path : List Char}

theorem notMem (is : IsPath path) {sign : Char} (other : isPathSign sign = false) :
    sign ∉ path := by
  intro found
  rw [is.written sign found] at other
  cases other

theorem isDropped (is : IsPath path) : ∀ sign ∈ path, isDropped sign = false := by
  intro sign found
  have apart (control : Char) (other : isPathSign control = false) : sign ≠ control := by
    rintro rfl
    exact is.notMem other found
  simp [Url.isDropped, apart '\t' rfl, apart '\n' rfl, apart '\r' rfl]

/-- A segment may be put behind a path. -/
theorem append_encode (is : IsPath path) (text : List Char) :
    IsPath (path ++ Percent.encode text) := by
  obtain ⟨rest, rfl⟩ := is.slashed
  refine ⟨⟨_, rfl⟩, fun sign found => ?_⟩
  rcases List.mem_append.mp found with before | behind
  · exact is.written sign before
  · obtain ⟨c, -, written⟩ := List.mem_flatMap.mp behind
    rcases Percent.isUnreserved_of_mem_encodeChar written with unreserved | rfl
    · simp [isPathSign, unreserved]
    · rfl

end IsPath

theorem isPath_initiation : IsPath "/oauth/initiate".toList :=
  ⟨⟨_, rfl⟩, List.all_eq_true.mp (by decide +kernel)⟩

theorem isPath_session (session : String) :
    IsPath ("/oauth/token/".toList ++ Percent.encode session.toList) :=
  IsPath.append_encode ⟨⟨_, rfl⟩, List.all_eq_true.mp (by decide +kernel)⟩ _

theorem isPath_wellKnown : IsPath Discovery.wellKnownPath.toList :=
  ⟨⟨_, rfl⟩, List.all_eq_true.mp (by decide +kernel)⟩

/-! ## Path parameters -/

/-- The last segment is looked at for parameters, and a path that is put behind has it. -/
theorem splitParameters_append {path : List Char} (is : IsPath path) (before : List Char) :
    splitParameters (before ++ path) = (before ++ path, []) := by
  obtain ⟨rest, slashed⟩ := is.slashed
  let apart (c : Char) : Bool := decide (c ≠ '/')
  have last : (before ++ path).reverse.takeWhile apart = rest.reverse.takeWhile apart := by
    have reversed : (before ++ path).reverse = rest.reverse ++ '/' :: before.reverse := by
      simp [slashed]
    rw [reversed]
    exact (takeWhile_dropWhile_append (p := apart) (.inl rfl) _).1
  have plain : ';' ∉ ((before ++ path).reverse.takeWhile apart).reverse := by
    rw [last, List.mem_reverse]
    intro found
    have within := List.mem_reverse.mp ((List.takeWhile_sublist apart).subset found)
    have other : ';' ∉ path := is.notMem (by decide)
    exact other (slashed ▸ List.mem_cons_of_mem _ within)
  have divided : before ++ path = ((before ++ path).reverse.dropWhile apart).reverse ++
      ((before ++ path).reverse.takeWhile apart).reverse := by
    rw [← List.reverse_append, List.takeWhile_append_dropWhile, List.reverse_reverse]
  unfold splitParameters
  dsimp only
  rw [show (fun c : Char => decide (c ≠ '/')) = apart from rfl, cut_of_notMem plain]
  generalize ((before ++ path).reverse.takeWhile apart).reverse = segment at divided ⊢
  generalize ((before ++ path).reverse.dropWhile apart).reverse = front at divided
  rw [divided]
  simp

/-! ## Network location -/

/-- Slashes that are put behind a location, or in it, do not change it. -/
theorem splitLocation_slashed (inner : List Char) {more : List Char}
    (slashed : more = [] ∨ ∃ rest, more = '/' :: rest) :
    splitLocation ('/' :: '/' :: inner ++ more) =
      ((splitLocation ('/' :: '/' :: inner)).1,
        (splitLocation ('/' :: '/' :: inner)).2 ++ more) := by
  rcases slashed with rfl | ⟨rest, rfl⟩
  · simp
  · have ends : (!endsLocation '/') = false ∨ ∃ c ∈ inner, (!endsLocation c) = false := .inl rfl
    obtain ⟨taken, dropped⟩ := takeWhile_dropWhile_append (p := (!endsLocation ·)) ends rest
    exact Prod.ext taken dropped

/-- A location that is not empty begins before the slashes at the end. -/
theorem double_of_location {text slashes : List Char} (only : ∀ c ∈ slashes, c = '/')
    (full : (splitLocation (text ++ slashes)).1 ≠ []) : ∃ inner, text = '/' :: '/' :: inner := by
  have begun : ∃ c more, text ++ slashes = '/' :: '/' :: c :: more ∧ c ≠ '/' := by
    unfold splitLocation at full
    split at full
    · rename_i rest same
      cases rest with
      | nil => exact absurd rfl full
      | cons c more =>
          refine ⟨c, more, same, ?_⟩
          rintro rfl
          exact full rfl
    · exact absurd rfl full
  obtain ⟨c, more, same, other⟩ := begun
  rcases text with _ | ⟨first, _ | ⟨second, inner⟩⟩
  · rw [List.nil_append] at same
    exact absurd (only c (by simp [same])) other
  · rw [List.singleton_append, List.cons.injEq] at same
    exact absurd (only c (by simp [same.2])) other
  · simp only [List.cons_append, List.cons.injEq] at same
    exact ⟨inner, by rw [same.1, same.2.1]⟩

/-! ## Bases -/

/-- An address with neither a query nor a fragment. -/
def IsPlain (text : String) : Prop :=
  '?' ∉ text.toList ∧ '#' ∉ text.toList

/-- What is behind the location decides where the path ends. -/
theorem path_partsBehind_append {text : List Char} (marked : '?' ∈ text ∨ '#' ∈ text)
    (scheme location more : List Char) :
    (partsBehind scheme location (text ++ more)).path =
      (partsBehind scheme location text).path := by
  have cutQuery {text : List Char} (asked : '?' ∈ text) (more : List Char) :
      (cut '?' (text ++ more)).1 = (cut '?' text).1 := by
    obtain ⟨before, rest, rfl, first⟩ := List.eq_append_cons_of_mem asked
    rw [List.append_assoc, List.cons_append, cut_append first, cut_append first]
  by_cases hash : '#' ∈ text
  · obtain ⟨before, rest, rfl, first⟩ := List.eq_append_cons_of_mem hash
    rw [List.append_assoc, List.cons_append]
    simp only [partsBehind, cut_append first]
  · have asked := marked.resolve_right hash
    have kept : ∃ rest, (cut '#' (text ++ more)).1 = text ++ rest := by
      by_cases later : '#' ∈ more
      · obtain ⟨before, rest, rfl, first⟩ := List.eq_append_cons_of_mem later
        have first' : '#' ∉ text ++ before := by simp [hash, first]
        rw [← List.append_assoc, cut_append first']
        exact ⟨before, rfl⟩
      · have none : '#' ∉ text ++ more := by simp [hash, later]
        rw [cut_of_notMem none]
        exact ⟨more, rfl⟩
    obtain ⟨rest, kept⟩ := kept
    simp only [partsBehind, kept, cut_of_notMem hash, cutQuery asked rest]

theorem partsBehind_path {text path : List Char} (is : IsPath path)
    (plain : '?' ∉ text ∧ '#' ∉ text)
    {scheme : List Char} (web : scheme = "http".toList ∨ scheme = "https".toList)
    (location : List Char) :
    partsBehind scheme location (text ++ path) = ⟨scheme, location, text ++ path, [], [], []⟩ := by
  have outside : '?' ∉ path ∧ '#' ∉ path := ⟨is.notMem rfl, is.notMem rfl⟩
  have noQuery : '?' ∉ text ++ path := by simp [plain.1, outside.1]
  have noFragment : '#' ∉ text ++ path := by simp [plain.2, outside.2]
  have listed : parameterSchemes.contains (String.ofList scheme) = true := by
    rcases web with rfl | rfl <;> decide
  simp only [partsBehind, cut_of_notMem noFragment, cut_of_notMem noQuery, listed, if_true,
    splitParameters_append is, Option.getD_none]

theorem splitBehind_eq_ok {scheme text : List Char} {parts : Parts}
    (read : splitBehind scheme text = .ok parts) :
    locationError? (splitLocation text).1 = none ∧ parts.scheme = scheme ∧
      parts.location = (splitLocation text).1 ∧
      parts = partsBehind scheme (splitLocation text).1 (splitLocation text).2 := by
  unfold splitBehind at read
  split at read
  · cases read
  · rename_i allowed
    obtain rfl := Except.ok.inj read
    exact ⟨allowed, rfl, rfl, rfl⟩

/-- A base is what is left of it, and slashes. -/
theorem exists_slashes (text : String) :
    ∃ slashes, text.toList = (withoutTrailingSlashes text).toList ++ slashes ∧
      ∀ c ∈ slashes, c = '/' := by
  obtain ⟨slashes, written, only⟩ := exists_eq_trimRight (· = '/') text.toList
  have base : (withoutTrailingSlashes text).toList = trimRight (· = '/') text.toList :=
    String.toList_ofList
  refine ⟨slashes, ?_, by simpa using only⟩
  rw [base]
  exact written

theorem clean_append_slashed {more : List Char} (slashed : more = [] ∨ ∃ rest, more = '/' :: rest)
    (clear : ∀ c ∈ more, isDropped c = false) (text : List Char) :
    clean (text ++ more) = clean text ++ more := by
  rcases slashed with rfl | ⟨rest, rfl⟩
  · simp
  · exact clean_append rfl rfl text fun c found => clear c (List.mem_cons_of_mem _ found)

/-- Trailing slashes and cleaning take no mark of a query or a fragment away. -/
theorem mem_clean_base {sign : Char} (mark : sign = '?' ∨ sign = '#') (text : String) :
    sign ∈ clean (withoutTrailingSlashes text).toList ↔ sign ∈ text.toList := by
  obtain ⟨slashes, written, only⟩ := exists_slashes text
  have outside : sign ∉ slashes := by
    intro found
    rcases mark with rfl | rfl <;> exact absurd (only _ found) (by decide)
  have shown : isLeadingNoise sign = false ∧ isDropped sign = false := by
    rcases mark with rfl | rfl <;> decide
  rw [mem_clean shown.1 shown.2, written, List.mem_append, or_iff_left outside]

/-- An address of the web keeps its scheme and its location when a path takes the place of the
slashes at its end, and the path goes behind what is left behind the location. -/
theorem split_base {text : String} {parts : Parts} (read : split text = .ok parts)
    (web : parts.scheme = "http".toList ∨ parts.scheme = "https".toList)
    (full : parts.location ≠ []) :
    ∃ behind slashes,
      (∀ sign, sign = '?' ∨ sign = '#' → (sign ∈ behind ↔ sign ∈ text.toList)) ∧
      parts = partsBehind parts.scheme parts.location (behind ++ slashes) ∧
      ∀ path : String, IsPath path.toList →
        split (withoutTrailingSlashes text ++ path) =
          .ok (partsBehind parts.scheme parts.location (behind ++ path.toList)) := by
  obtain ⟨slashes, written, only⟩ := exists_slashes text
  have slashed : slashes = [] ∨ ∃ rest, slashes = '/' :: rest := by
    cases slashes with
    | nil => exact .inl rfl
    | cons c rest =>
        obtain rfl := only c List.mem_cons_self
        exact .inr ⟨rest, rfl⟩
  have cleared : ∀ c ∈ slashes, isDropped c = false := by
    intro c found
    rw [only c found]
    rfl
  have colonless : ':' ∉ slashes := fun found => absurd (only _ found) (by decide)
  unfold split at read
  rw [written, clean_append_slashed slashed cleared, splitClean_eq,
    splitScheme?_append colonless] at read
  cases scheme : splitScheme? (clean (withoutTrailingSlashes text).toList) with
  | none =>
      rw [scheme] at read
      obtain ⟨-, none, -⟩ := splitBehind_eq_ok read
      rw [none] at web
      exact absurd web (by decide)
  | some found =>
      obtain ⟨spelling, rest⟩ := found
      rw [scheme] at read
      obtain ⟨allowed, here, location, all⟩ := splitBehind_eq_ok read
      rw [location] at full
      obtain ⟨inner, rfl⟩ := double_of_location only full
      rw [splitLocation_slashed inner slashed] at allowed location all
      refine ⟨(splitLocation ('/' :: '/' :: inner)).2, slashes, ?_, ?_, fun path is => ?_⟩
      · intro sign mark
        rw [mem_splitLocation mark, mem_of_splitScheme? mark scheme, mem_clean_base mark]
      · rw [here, location]
        exact all
      · unfold split
        rw [String.toList_append, clean_append_slashed (.inr is.slashed) is.isDropped,
          splitClean_eq, splitScheme?_append (is.notMem rfl), scheme]
        show splitBehind (lowerAscii spelling) ('/' :: '/' :: inner ++ path.toList) = _
        rw [splitBehind, splitLocation_slashed inner (.inr is.slashed), allowed, here, location]

/-! ## Built addresses -/

/-- An address is read like its base as far as the location.  Its path ends like this when the
base is plain; otherwise it is the path of the base. -/
def Extends (base url : String) (path : List Char) : Prop :=
  ∃ parts built, split base = .ok parts ∧ split url = .ok built ∧
    built.scheme = parts.scheme ∧ built.location = parts.location ∧
    (IsPlain base → ∃ before, built.path = before ++ path ∧ built.parameters = [] ∧
      built.query = [] ∧ built.fragment = []) ∧
    (¬ IsPlain base → built.path = parts.path)

theorem extends_of_web {text path : String} (web : IsWebAddress text) (is : IsPath path.toList) :
    Extends text (withoutTrailingSlashes text ++ path) path.toList := by
  obtain ⟨parts, read, scheme, full⟩ := web
  obtain ⟨behind, slashes, marks, same, built⟩ := split_base read scheme full
  refine ⟨parts, _, read, built path is, rfl, rfl, fun plain => ?_, fun marked => ?_⟩
  · have plain' : '?' ∉ behind ∧ '#' ∉ behind := by
      rwa [marks '?' (.inl rfl), marks '#' (.inr rfl)]
    rw [partsBehind_path is plain' scheme]
    exact ⟨behind, rfl, rfl, rfl, rfl⟩
  · have marked' : '?' ∈ behind ∨ '#' ∈ behind := by
      rw [marks '?' (.inl rfl), marks '#' (.inr rfl)]
      rwa [IsPlain, Classical.not_and_iff_not_or_not, Classical.not_not, Classical.not_not]
        at marked
    have own : parts.path = _ := congrArg Parts.path same
    rw [own, path_partsBehind_append marked', path_partsBehind_append marked']

end Url

/-! ## Requests -/

open TokenFlow.World

theorem requests_outline (events : List Event) :
    (outline events).filterMap Event.request? = events.filterMap Event.request? := by
  rw [outline, List.filterMap_filter]
  congr 1
  funext event
  cases event <;> rfl

namespace DelegatedProvider

variable (provider : DelegatedProvider)

/-- What a delegated login may ask for. -/
def Asks (url : String) : Prop :=
  url = provider.initiationUrl ∨ ∃ session, url = provider.sessionUrl session

theorem asks_rounds (session : String) (count : Nat) :
    ∀ request ∈ (provider.rounds (provider.sessionUrl session) count).filterMap Event.request?,
      provider.Asks request.url := by
  intro request found
  obtain ⟨event, done, sent⟩ := List.mem_filterMap.mp found
  obtain ⟨round, repeated, within⟩ := List.mem_flatten.mp done
  rw [List.eq_of_mem_replicate repeated] at within
  simp only [List.mem_cons, List.not_mem_nil, or_false] at within
  rcases within with rfl | rfl
  · cases sent
  · obtain rfl := Option.some.inj sent
    exact .inr ⟨session, rfl⟩

theorem LogInDeeds.asks {first : Except Fault Document.Initiation} {opening : Opening}
    {deeds : List Event} {result : Except Fault String}
    (done : provider.LogInDeeds first opening deeds result) :
    ∀ request ∈ deeds.filterMap Event.request?, provider.Asks request.url := by
  have greeted : ∀ request ∈ provider.greeting.filterMap Event.request?,
      provider.Asks request.url := by
    simp [greeting, Event.request?, Asks, initiationUrl, Http.Request.get]
  cases done with
  | uninitiated => exact greeted
  | unopened given =>
      intro request found
      rw [List.filterMap_append] at found
      exact greeted request (by simpa [Event.request?] using found)
  | polled given count =>
      intro request found
      rw [List.filterMap_append, List.filterMap_append, List.mem_append, List.mem_append] at found
      rcases found with (first | page) | later
      · exact greeted request first
      · cases page
      · exact provider.asks_rounds given.session count request later
  | endless given =>
      intro request found
      rw [List.filterMap_append, List.filterMap_append] at found
      exact greeted request (by simpa [Event.request?] using found)

/-- A call asks for an initiation and for sessions, and for nothing else. -/
theorem getToken_asks (login : Login) :
    ∃ events, (provider.getToken login).2.world.trace = login.world.trace ++ events ∧
      ∀ request ∈ events.filterMap Event.request?, provider.Asks request.url := by
  cases look : login.credentials.usable? login.world.clock buffer with
  | some value =>
      have kept := @Provider.getToken_of_usable (.delegated provider) login value look
      refine ⟨[], ?_, List.forall_mem_nil _⟩
      rw [List.append_nil]
      exact congrArg (fun called => called.2.world.trace) kept
  | none =>
      obtain ⟨events, trace, done⟩ := provider.logIn_deeds login.world
      refine ⟨events, ?_, ?_⟩
      · rw [(provider.getToken_of_logIn look).2, trace]
      · rw [← requests_outline]
        exact done.asks

end DelegatedProvider

namespace Configuration

variable {settings : Settings} {configuration : Configuration}

/-- What the issuer is asked for is its metadata. -/
theorem endpoints_asks (configuration : Configuration) (world : World) :
    ∃ events, (configuration.endpoints world).2.trace = world.trace ++ events ∧
      ∀ request ∈ events.filterMap Event.request?, ∃ issuer,
        nonempty? configuration.issuer = some issuer ∧
          request.url = Discovery.metadataUrl issuer := by
  cases asks : configuration.issuerToAsk? with
  | none =>
      rw [endpoints_of_unasked asks]
      exact ⟨[], (List.append_nil _).symm, List.forall_mem_nil _⟩
  | some issuer =>
      obtain ⟨replies, log, redirects, only, answered⟩ := Discovery.endpoints_apply issuer world
      rw [endpoints_of_asked asks, answered]
      refine ⟨_, rfl, fun request found => ⟨issuer, ?_, ?_⟩⟩
      · unfold issuerToAsk? at asks
        split at asks
        · cases asks
        · exact asks
      · obtain ⟨event, done, sent⟩ := List.mem_filterMap.mp found
        simp only [List.mem_cons] at done
        rcases done with rfl | rfl | redirect
        · cases sent
        · obtain rfl := Option.some.inj sent
          rfl
        · rw [(only event redirect).request?] at sent
          cases sent

/-- **Requests go to paths behind an accepted address.**  The issuer of a login with a code is
asked at its well-known path.  A delegated login asks the service for an initiation, and for
sessions at one path each, whatever their names are, with the scheme and the location of the
configured address.  The path of each request ends as it has to when that address is plain. -/
theorem requests_extend_base (settings : Settings) (configuration : Configuration)
    (accepted : ofSettings settings = .ok configuration) (options : Options) (agent : Agent) :
    (configuration.flow = .authorizationCode →
      ∀ issuer, nonempty? configuration.issuer = some issuer →
        Url.Extends issuer (Discovery.metadataUrl issuer)
          "/.well-known/openid-configuration".toList ∧
        ∃ events, (configuration.account none options agent).2.world.trace =
            agent.world.trace ++ events ∧
          ∀ request ∈ events.filterMap Event.request?,
            request.url = Discovery.metadataUrl issuer) ∧
    (configuration.flow = .delegated →
      ∃ base provider cell, configuration.serverUrl = some base ∧
        (configuration.account none options agent).1 = .ok ⟨.delegated provider, cell⟩ ∧
        (configuration.account none options agent).2.world = agent.world ∧
        Url.Extends base provider.initiationUrl "/oauth/initiate".toList ∧
        (∀ session, Url.Extends base (provider.sessionUrl session)
          ("/oauth/token/".toList ++ Text.Percent.encode session.toList)) ∧
        ∀ later : Agent, ∃ events,
          ((⟨.delegated provider, cell⟩ : Account).getToken later).2.world.trace =
            later.world.trace ++ events ∧
          ∀ request ∈ events.filterMap Event.request?,
            request.url = provider.initiationUrl ∨
              ∃ session, request.url = provider.sessionUrl session) := by
  have sound := sound_of_ofSettings accepted
  refine ⟨fun code issuer known => ⟨?_, ?_⟩, fun delegated => ?_⟩
  · exact Url.extends_of_web (sound.issuer code issuer known) Url.isPath_wellKnown
  · obtain ⟨-, world⟩ := account_of_code (complete_of_ofSettings accepted) code none options agent
    obtain ⟨events, trace, asks⟩ := configuration.endpoints_asks agent.world
    refine ⟨events, by rw [world, trace], fun request found => ?_⟩
    obtain ⟨issuer', known', url⟩ := asks request found
    obtain rfl : issuer = issuer' := Option.some.inj (known.symm.trans known')
    exact url
  · obtain ⟨base, given, full, web⟩ := sound.server delegated
    have opened := account_of_delegated withAdvertised_none delegated given full options agent
    refine ⟨base, configuration.serviceAt options base, _, given, by rw [opened]; rfl,
      by rw [opened], Url.extends_of_web web Url.isPath_initiation, fun session => ?_,
      fun later => ?_⟩
    · have written : (configuration.serviceAt options base).sessionUrl session =
          Url.withoutTrailingSlashes base ++ String.ofList
            ("/oauth/token/".toList ++ Text.Percent.encode session.toList) := by
        rw [String.ofList_append, String.ofList_toList, ← String.append_assoc]
        rfl
      have is := Url.isPath_session session
      rw [← String.toList_ofList (l := "/oauth/token/".toList ++ _)] at is ⊢
      rw [written]
      exact Url.extends_of_web web is
    · exact (configuration.serviceAt options base).getToken_asks _

/-- The configuration of a delegated login with the service at this address. -/
def servedAt (base : String) : Configuration :=
  unchecked { Settings.default with serverUrl := some base } .delegated

/-- Noise before the address, path parameters and slashes at the end do no harm, and a session
may have any name. -/
theorem requests_extend_base_slashed :
    ofSettings { Settings.default with serverUrl := some " HTTPS://flight.example/a;v=1//" } =
      .ok (servedAt " HTTPS://flight.example/a;v=1//") ∧
    ∃ provider cell,
      ((servedAt " HTTPS://flight.example/a;v=1//").account none .default
        (.start (World.quiet (Number.Binary64.exactly 1000) (.ofSeed 1)))).1 =
          .ok ⟨.delegated provider, cell⟩ ∧
      Url.Extends " HTTPS://flight.example/a;v=1//" (provider.sessionUrl "s/1?")
        "/oauth/token/s%2F1%3F".toList := by
  have accepted : ofSettings
      { Settings.default with serverUrl := some " HTTPS://flight.example/a;v=1//" } =
        .ok (servedAt " HTTPS://flight.example/a;v=1//") := by
    decide +kernel
  obtain ⟨-, served⟩ := requests_extend_base _ _ accepted .default
    (.start (World.quiet (Number.Binary64.exactly 1000) (.ofSeed 1)))
  obtain ⟨base, provider, cell, given, opened, -, -, sessions, -⟩ := served rfl
  obtain rfl : " HTTPS://flight.example/a;v=1//" = base := Option.some.inj given
  exact ⟨accepted, provider, cell, opened, sessions "s/1?"⟩

/-- A query of the base takes in what is put behind it, and the root is asked for. -/
theorem query_swallows_path :
    ¬ ∀ (settings : Settings) (configuration : Configuration) (options : Options) (agent : Agent)
        (base : String) (provider : DelegatedProvider) (cell : Nat),
      ofSettings settings = .ok configuration → configuration.flow = .delegated →
      configuration.serverUrl = some base →
      (configuration.account none options agent).1 = .ok ⟨.delegated provider, cell⟩ →
        ∃ parts built before, Url.split base = .ok parts ∧
          Url.split provider.initiationUrl = .ok built ∧ built.scheme = parts.scheme ∧
          built.location = parts.location ∧ built.path = before ++ "/oauth/initiate".toList := by
  intro claimed
  have accepted : ofSettings
      { Settings.default with serverUrl := some "https://flight.example?tenant=a" } =
        .ok (servedAt "https://flight.example?tenant=a") := by
    decide +kernel
  have opened : (servedAt "https://flight.example?tenant=a").account none .default
      (.start (World.quiet (Number.Binary64.exactly 1000) (.ofSeed 1))) = _ :=
    account_of_delegated rfl rfl rfl (by decide) .default _
  obtain ⟨parts, built, before, -, read, -, -, path⟩ := claimed _ _ _ _ _ _ _ accepted rfl rfl
    (congrArg Prod.fst opened)
  have asked : Url.split "https://flight.example?tenant=a/oauth/initiate" =
      .ok ⟨"https".toList, "flight.example".toList, [], [], "tenant=a/oauth/initiate".toList,
        []⟩ := rfl
  obtain rfl := Except.ok.inj (asked.symm.trans read)
  exact absurd path (by simp)

end Configuration

end TokenFlow
