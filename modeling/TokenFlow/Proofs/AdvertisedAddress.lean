/-
# TokenFlow.Proofs.AdvertisedAddress -- the address that was advertised last

Headers hold what the first of them with the right name holds (`Headers.Hold`), and advertise
it when it is not empty.  Whatever else comes, a header that cannot be decoded included, leaves
the last address as it is (`observe_cases`).  So after any number of headers the address is
that of the last ones that advertise one (`latest_eq_some_iff`).

An account of a delegated login is opened there, in the place of the configured address, when
it is an address of the web.  A login with a code does not look at it.
-/
import TokenFlow.Advertisement
import TokenFlow.Proofs.BaseAddress

namespace TokenFlow

set_option autoImplicit false

namespace Advertisement

open TokenFlow.Text

/-! ## Names and values -/

/-- What a name is written as. -/
inductive Name.Reads : Name → String → Prop
  | text (content : String) : Reads (.text content) content
  | octets {octets : List UInt8} {content : String} (decoded : decode octets = .ok content) :
      Reads (.octets octets) content

/-- The name of the header, in letters of any case. -/
def Name.IsHeader (name : Name) : Prop :=
  ∃ content, name.Reads content ∧ lowerAscii content.toList = headerName.toList

/-- The name of another header, or of none. -/
def Name.IsOther (name : Name) : Prop :=
  name = .other ∨ ∃ content, name.Reads content ∧ lowerAscii content.toList ≠ headerName.toList

/-- What a value holds: itself, or the first of its items. -/
inductive Value.Holds : Value → String → Prop
  | text (content : String) : Holds (.text content) content
  | octets {octets : List UInt8} {content : String} (decoded : decode octets = .ok content) :
      Holds (.octets octets) content
  | first {item : Value} {items : List Value} {content : String}
      (read : item.item = .ok content) : Holds (.list (item :: items)) content

theorem decode_of_error {octets : List UInt8} {fault : Fault}
    (h : decode octets = .error fault) : fault = .notUtf8 := by
  unfold decode at h
  split at h
  · cases h
  · exact (Except.error.inj h).symm

namespace Name

theorem isHeader_of_reads {name : Name} {content : String} (read : name.Reads content) :
    name.isHeader = .ok (decide (lowerAscii content.toList = headerName.toList)) := by
  cases read with
  | text => rfl
  | octets decoded =>
      simp only [isHeader, decoded]
      rfl

theorem isHeader_of_isHeader {name : Name} (header : name.IsHeader) :
    name.isHeader = .ok true := by
  obtain ⟨content, read, title⟩ := header
  rw [isHeader_of_reads read, decide_eq_true title]

theorem isHeader_of_isOther {name : Name} (other : name.IsOther) : name.isHeader = .ok false := by
  obtain rfl | ⟨content, read, title⟩ := other
  · rfl
  · rw [isHeader_of_reads read, decide_eq_false title]

/-- A name is that of the header, or of another one, or it cannot be read. -/
theorem cases (name : Name) :
    name.IsHeader ∨ name.IsOther ∨ name.isHeader = .error .notUtf8 := by
  have read {content : String} (read : name.Reads content) : name.IsHeader ∨ name.IsOther := by
    by_cases title : lowerAscii content.toList = headerName.toList
    · exact .inl ⟨content, read, title⟩
    · exact .inr (.inr ⟨content, read, title⟩)
  cases name with
  | text content => exact (read (.text content)).imp_right .inl
  | other => exact .inr (.inl (.inl rfl))
  | octets octets =>
      cases decoded : decode octets with
      | ok content => exact (read (.octets decoded)).imp_right .inl
      | error fault =>
          obtain rfl := decode_of_error decoded
          right; right
          simp only [isHeader, decoded]
          rfl

end Name

namespace Value

theorem text?_eq_some_iff {value : Value} {content : String} :
    value.text? = .ok (some content) ↔ value.Holds content := by
  have mapped {read : Except Fault String} :
      some <$> read = .ok (some content) ↔ read = .ok content := by
    cases read with
    | error fault => simp
    | ok found => simp
  constructor
  · intro h
    match value, h with
    | .text _, h =>
        obtain rfl := Option.some.inj (Except.ok.inj h)
        exact .text _
    | .octets _, h => exact .octets (mapped.mp h)
    | .list (item :: items), h => exact .first (mapped.mp h)
    | .list [], h | .nothing, h | .boolean _, h | .amount _, h => cases h
  · intro held
    cases held with
    | text => rfl
    | octets decoded => exact mapped.mpr decoded
    | first read => exact mapped.mpr read

theorem text?_of_error {value : Value} {fault : Fault} (h : value.text? = .error fault) :
    fault = .notUtf8 := by
  have mapped {read : Except Fault String} (h : some <$> read = .error fault) :
      read = .error fault := by
    cases read with
    | error cause => exact congrArg Except.error (Except.error.inj h)
    | ok content => cases h
  match value, h with
  | .octets _, h => exact decode_of_error (mapped h)
  | .list (first :: items), h =>
      have unread := mapped h
      unfold Value.item at unread
      split at unread
      · cases unread
      · exact decode_of_error unread
      · cases unread
  | .text _, h | .list [], h | .nothing, h | .boolean _, h | .amount _, h => cases h

end Value

/-! ## Headers -/

/-- The first header of the right name holds this. -/
inductive Headers.Hold : Headers → String → Prop
  | here {name : Name} {value : Value} {rest : Headers} {url : String} (header : name.IsHeader)
      (held : value.Holds url) : Hold ((name, value) :: rest) url
  | later {name : Name} {value : Value} {rest : Headers} {url : String} (other : name.IsOther)
      (held : Hold rest url) : Hold ((name, value) :: rest) url

theorem find?_cons (name : Name) (value : Value) (rest : Headers) :
    find? ((name, value) :: rest) =
      match name.isHeader with
      | .error fault => .error fault
      | .ok true => value.text?
      | .ok false => find? rest := by
  rw [find?]
  rcases name.isHeader with fault | _ | _ <;> rfl

theorem find?_eq_some_iff {headers : Headers} {url : String} :
    find? headers = .ok (some url) ↔ Headers.Hold headers url := by
  constructor
  · intro found
    induction headers with
    | nil => cases found
    | cons field rest ih =>
        obtain ⟨name, value⟩ := field
        rw [find?_cons] at found
        rcases name.cases with header | other | unread
        · rw [Name.isHeader_of_isHeader header] at found
          exact .here header (Value.text?_eq_some_iff.mp found)
        · rw [Name.isHeader_of_isOther other] at found
          exact .later other (ih found)
        · rw [unread] at found
          cases found
  · intro held
    induction held with
    | here header held =>
        rw [find?_cons, Name.isHeader_of_isHeader header]
        exact Value.text?_eq_some_iff.mpr held
    | later other held ih =>
        rw [find?_cons, Name.isHeader_of_isOther other]
        exact ih

theorem find?_of_error {headers : Headers} {fault : Fault} (h : find? headers = .error fault) :
    fault = .notUtf8 := by
  induction headers with
  | nil => cases h
  | cons field rest ih =>
      obtain ⟨name, value⟩ := field
      rw [find?_cons] at h
      rcases name.cases with header | other | unread
      · rw [Name.isHeader_of_isHeader header] at h
        exact Value.text?_of_error h
      · rw [Name.isHeader_of_isOther other] at h
        exact ih h
      · rw [unread] at h
        exact (Except.error.inj h).symm

/-- Headers advertise what they hold, unless it is empty. -/
def Headers.Advertise (headers : Headers) (url : String) : Prop :=
  Headers.Hold headers url ∧ url ≠ ""

/-- Headers that advertise nothing. -/
def Headers.Silent (headers : Headers) : Prop :=
  ∀ url, ¬ Headers.Advertise headers url

/-! ## The last address -/

/-- What one observation makes of the last address. -/
theorem observe_cases (headers : Headers) (latest : Latest) :
    (∃ url, Headers.Advertise headers url ∧ observe headers latest = (.ok (), some url)) ∨
      (Headers.Silent headers ∧ observe headers latest = (.ok (), latest)) ∨
      (Headers.Silent headers ∧ observe headers latest = (.error .notUtf8, latest)) := by
  unfold observe
  rw [Act.bind_apply, Act.lift_apply]
  cases found : find? headers with
  | error fault =>
      obtain rfl := find?_of_error found
      refine .inr (.inr ⟨fun url advertised => ?_, rfl⟩)
      have here := find?_eq_some_iff.mpr advertised.1
      rw [found] at here
      cases here
  | ok text =>
      cases given : nonempty? text with
      | some url =>
          obtain ⟨rfl, full⟩ := nonempty?_eq_some_iff.mp given
          refine .inl ⟨url, ⟨find?_eq_some_iff.mp found, full⟩, ?_⟩
          simp only [given]
          rfl
      | none =>
          refine .inr (.inl ⟨fun url advertised => ?_, by simp only [given]; rfl⟩)
          have here := find?_eq_some_iff.mpr advertised.1
          rw [found] at here
          obtain rfl := Except.ok.inj here
          rw [nonempty?_eq_some_iff.mpr ⟨rfl, advertised.2⟩] at given
          cases given

theorem observe_eq_some_iff (headers : Headers) (latest : Latest) (url : String) :
    (observe headers latest).2 = some url ↔
      Headers.Advertise headers url ∨ (Headers.Silent headers ∧ latest = some url) := by
  obtain ⟨other, advertised, observed⟩ | ⟨silent, observed⟩ | ⟨silent, observed⟩ :=
    observe_cases headers latest
  · rw [observed]
    have unique : Headers.Advertise headers url ↔ other = url := by
      constructor
      · intro advertised'
        have here := find?_eq_some_iff.mpr advertised.1
        rw [find?_eq_some_iff.mpr advertised'.1] at here
        exact (Option.some.inj (Except.ok.inj here)).symm
      · rintro rfl
        exact advertised
    have loud : ¬ Headers.Silent headers := fun silent => silent other advertised
    simp [unique, loud]
  · simp [observed, silent, silent url]
  · simp [observed, silent, silent url]

/-- The last address after these headers, from the first to the last. -/
def latestOf (maps : List Headers) : Latest :=
  maps.foldl (fun latest headers => (observe headers latest).2) none

/-- The last headers that advertise an address advertise this one. -/
def LastAdvertised (maps : List Headers) (url : String) : Prop :=
  ∃ before headers after, maps = before ++ headers :: after ∧ Headers.Advertise headers url ∧
    ∀ later ∈ after, Headers.Silent later

theorem lastAdvertised_cons {headers : Headers} {maps : List Headers} {url : String} :
    LastAdvertised (headers :: maps) url ↔
      LastAdvertised maps url ∨
        (Headers.Advertise headers url ∧ ∀ later ∈ maps, Headers.Silent later) := by
  constructor
  · rintro ⟨before, last, after, same, advertised, silent⟩
    cases before with
    | nil =>
        obtain ⟨rfl, rfl⟩ := List.cons.inj same
        exact .inr ⟨advertised, silent⟩
    | cons first before =>
        obtain ⟨rfl, rfl⟩ := List.cons.inj same
        exact .inl ⟨before, last, after, rfl, advertised, silent⟩
  · rintro (⟨before, last, after, rfl, advertised, silent⟩ | ⟨advertised, silent⟩)
    · exact ⟨headers :: before, last, after, rfl, advertised, silent⟩
    · exact ⟨[], headers, maps, rfl, advertised, silent⟩

/-- Later headers count before earlier ones, and those before what was there at first.  The
induction is on the headers, for every address that is there at first. -/
theorem foldl_observe_eq_some_iff (maps : List Headers) (latest : Latest) (url : String) :
    maps.foldl (fun latest headers => (observe headers latest).2) latest = some url ↔
      LastAdvertised maps url ∨
        ((∀ headers ∈ maps, Headers.Silent headers) ∧ latest = some url) := by
  induction maps generalizing latest with
  | nil => simp [LastAdvertised]
  | cons headers maps ih =>
      rw [List.foldl_cons, ih, observe_eq_some_iff, lastAdvertised_cons, List.forall_mem_cons]
      tauto

theorem latestOf_eq_some_iff (maps : List Headers) (url : String) :
    latestOf maps = some url ↔ LastAdvertised maps url := by
  simp [latestOf, foldl_observe_eq_some_iff]

theorem lastAdvertised_or_silent (maps : List Headers) :
    (∃ url, LastAdvertised maps url) ∨ ∀ headers ∈ maps, Headers.Silent headers := by
  induction maps with
  | nil => exact .inr (List.forall_mem_nil _)
  | cons headers maps ih =>
      obtain ⟨url, last⟩ | silent := ih
      · exact .inl ⟨url, lastAdvertised_cons.mpr (.inl last)⟩
      · by_cases quiet : Headers.Silent headers
        · exact .inr (List.forall_mem_cons.mpr ⟨quiet, silent⟩)
        · obtain ⟨url, advertised⟩ := Classical.not_forall_not.mp quiet
          exact .inl ⟨url, lastAdvertised_cons.mpr (.inr ⟨advertised, silent⟩)⟩

theorem latestOf_eq_none_iff (maps : List Headers) :
    latestOf maps = none ↔ ∀ headers ∈ maps, Headers.Silent headers := by
  constructor
  · intro none
    obtain ⟨url, last⟩ | silent := lastAdvertised_or_silent maps
    · rw [(latestOf_eq_some_iff maps url).mpr last] at none
      cases none
    · exact silent
  · intro silent
    cases latest : latestOf maps with
    | none => rfl
    | some url =>
        obtain ⟨before, headers, after, rfl, advertised, -⟩ :=
          (latestOf_eq_some_iff maps url).mp latest
        exact absurd advertised (silent headers (by simp) url)

end Advertisement

/-! ## Opening at the last address -/

namespace Configuration

open TokenFlow.Advertisement

theorem checkUrl_of_read {setting : Setting} {url : String} {parts : Url.Parts}
    (read : Url.split url = .ok parts) (full : url ≠ "") :
    (IsWebAddress url → checkUrl setting (some url) = .ok ()) ∧
      (¬ IsWebAddress url →
        checkUrl setting (some url) = .error (.configuration (.urlInvalid setting url))) := by
  have web : IsWebAddress url ↔ isWebUrl parts = true := by
    rw [isWebUrl_iff]
    simp [IsWebAddress, read]
  have given : nonempty? (some url) = some url := nonempty?_eq_some_iff.mpr ⟨rfl, full⟩
  have checked : checkUrl setting (some url) =
      if isWebUrl parts then .ok () else .error (.configuration (.urlInvalid setting url)) := by
    unfold checkUrl
    rw [given]
    simp only [read]
  rw [checked, web]
  exact ⟨fun fine => if_pos fine, fun other => if_neg other⟩

variable {configuration : Configuration} {own : String} {advertised : Option String}

/-- An address that was advertised takes the place of the own one, and nothing else changes. -/
theorem withAdvertised_of_delegated (delegated : configuration.flow = .delegated)
    (given : configuration.serverUrl = some own) (web : IsWebAddress own)
    (full : ∀ url, advertised = some url → url ≠ "")
    (readable : ∀ url, advertised = some url → ∃ parts, Url.split url = .ok parts) :
    (IsWebAddress (advertised.getD own) →
      configuration.withAdvertised advertised =
        .ok { configuration with serverUrl := some (advertised.getD own) }) ∧
    (¬ IsWebAddress (advertised.getD own) →
      configuration.withAdvertised advertised =
        .error (.configuration (.urlInvalid .serverUrl (advertised.getD own)))) := by
  have same : { configuration with serverUrl := some own } = configuration := by
    rw [← given]
  cases advertised with
  | none =>
      refine ⟨fun _ => ?_, fun other => absurd web other⟩
      rw [withAdvertised_none, Option.getD_none, same]
  | some url =>
      rw [Option.getD_some]
      have here : nonempty? (some url) = some url := nonempty?_eq_some_iff.mpr ⟨rfl, full url rfl⟩
      by_cases repeated : url = own
      · subst repeated
        have kept : configuration.replacement? (some url) = none := by
          simp [replacement?, delegated, here, given, Option.filter]
        refine ⟨fun _ => ?_, fun other => absurd web other⟩
        rw [withAdvertised_of_none kept, same]
      · have replaced : configuration.replacement? (some url) = some url := by
          simp [replacement?, delegated, here, given, repeated]
        obtain ⟨parts, read⟩ := readable url rfl
        obtain ⟨fine, other⟩ := @checkUrl_of_read .serverUrl url parts read (full url rfl)
        rw [withAdvertised_of_some replaced]
        refine ⟨fun web => ?_, fun no => ?_⟩
        · rw [fine web]
          rfl
        · rw [other no]
          rfl

/-- **A delegated account is opened at the address that was advertised last.**  That is the
address that the last headers with an address advertise, and nothing when there are none;
headers that cannot be decoded leave it as it is.  If it can be read, a delegated login is
opened with the service there, or at the own address when there was none, and is refused
without a trace when that is no address of the web.  A login with a code is opened as if
nothing had been advertised. -/
theorem account_of_latest (settings : Settings) (configuration : Configuration)
    (accepted : ofSettings settings = .ok configuration) (maps : List Headers)
    (options : Options) (agent : Agent) :
    (∀ url, latestOf maps = some url ↔ LastAdvertised maps url) ∧
    (latestOf maps = none ↔ ∀ headers ∈ maps, Headers.Silent headers) ∧
    (∀ headers latest fault, (observe headers latest).1 = .error fault →
      observe headers latest = (.error .notUtf8, latest)) ∧
    ((∀ url, latestOf maps = some url → ∃ parts, Url.split url = .ok parts) →
      configuration.flow = .delegated →
      ∃ own, configuration.serverUrl = some own ∧
        let base := (latestOf maps).getD own
        let provider : DelegatedProvider :=
          ⟨Url.withoutTrailingSlashes base, configuration.disableVerification,
            options.pollInterval, options.pollTimeout⟩
        let (cell, vault) := agent.vault.cellFor options.cache provider.cacheKey
        (IsWebAddress base →
          configuration.withAdvertised (latestOf maps) =
            .ok { configuration with serverUrl := some base } ∧
          configuration.account (latestOf maps) options agent =
            (.ok ⟨.delegated provider, cell⟩, { agent with vault })) ∧
        (¬ IsWebAddress base →
          configuration.account (latestOf maps) options agent =
            (.error (.configuration (.urlInvalid .serverUrl base)), agent))) ∧
    (configuration.flow = .authorizationCode →
      configuration.withAdvertised (latestOf maps) = .ok configuration ∧
      configuration.account (latestOf maps) options agent =
        configuration.account none options agent) := by
  refine ⟨latestOf_eq_some_iff maps, latestOf_eq_none_iff maps, ?_, ?_, ?_⟩
  · intro headers latest fault failed
    obtain ⟨url, -, observed⟩ | ⟨-, observed⟩ | ⟨-, observed⟩ := observe_cases headers latest
    · rw [observed] at failed
      cases failed
    · rw [observed] at failed
      cases failed
    · exact observed
  · intro readable delegated
    obtain ⟨own, given, ownFull, web⟩ := (sound_of_ofSettings accepted).server delegated
    have full : ∀ url, latestOf maps = some url → url ≠ "" := by
      intro url latest
      obtain ⟨_, _, _, -, advertised, -⟩ := (latestOf_eq_some_iff maps url).mp latest
      exact advertised.2
    have baseFull : (latestOf maps).getD own ≠ "" := by
      cases latest : latestOf maps with
      | none => exact ownFull
      | some url => exact full url latest
    obtain ⟨fine, refused⟩ := withAdvertised_of_delegated delegated given web full readable
    refine ⟨own, given, fun web => ⟨fine web, ?_⟩, fun other => ?_⟩
    · exact account_of_delegated (fine web) delegated rfl baseFull options agent
    · exact account_of_refused (refused other) options agent
  · intro code
    have same := withAdvertised_of_code code (latestOf maps)
    refine ⟨same, ?_⟩
    unfold account
    rw [same, withAdvertised_none]

/-- Three maps: the first one advertises an address behind another header, in a list and as
octets; the second one has an empty value, and the third one cannot be decoded. -/
def mixedMaps : List Headers :=
  [[(.text "x-other", .text "https://other.example"),
      (.octets (Text.Utf8.encode "X-GizmoSQL-OAuth-URL".toList),
        .list [.octets (Text.Utf8.encode "https://flight.example//".toList), .text "more"])],
    [(.text "x-gizmosql-oauth-url", .text "")],
    [(.octets [0xFF], .text "https://late.example")]]

/-- The account is opened with the service that the first of them advertises. -/
theorem account_of_latest_mixed :
    ofSettings { Settings.default with serverUrl := some "https://own.example" } =
      .ok (servedAt "https://own.example") ∧
    LastAdvertised mixedMaps "https://flight.example//" ∧
    ∃ cell vault,
      (servedAt "https://own.example").account (latestOf mixedMaps) .default
          (.start (World.quiet (Number.Binary64.exactly 1000) (.ofSeed 1))) =
        (.ok ⟨.delegated ⟨"https://flight.example", false, Options.default.pollInterval,
            Options.default.pollTimeout⟩, cell⟩,
          ⟨vault, World.quiet (Number.Binary64.exactly 1000) (.ofSeed 1)⟩) := by
  have accepted : ofSettings { Settings.default with serverUrl := some "https://own.example" } =
      .ok (servedAt "https://own.example") := by
    decide +kernel
  have latest : latestOf mixedMaps = some "https://flight.example//" := by decide +kernel
  have read : Url.split "https://flight.example//" =
      .ok ⟨"https".toList, "flight.example".toList, "//".toList, [], [], []⟩ := rfl
  obtain ⟨slot, -, -, opens, -⟩ := account_of_latest _ _ accepted mixedMaps .default
    (.start (World.quiet (Number.Binary64.exactly 1000) (.ofSeed 1)))
  obtain ⟨own, -, served, -⟩ := opens (fun url here => by
    obtain rfl := Option.some.inj (latest.symm.trans here)
    exact ⟨_, read⟩) rfl
  rw [latest, Option.getD_some] at served
  obtain ⟨-, opened⟩ := served ⟨_, read, .inr rfl, by decide⟩
  refine ⟨accepted, (slot _).mp latest, ?_⟩
  rw [latest]
  exact ⟨_, _, opened⟩

end Configuration

end TokenFlow
