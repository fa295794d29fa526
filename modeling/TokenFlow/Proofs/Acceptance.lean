/-
# TokenFlow.Proofs.Acceptance -- which settings make a configuration

Settings are accepted when the flow is spelled in one of its ways, nothing that the flow
cannot do without is missing, and every address that it uses is one of the web
(`Configuration.Sound`).  When they are refused, the failure names a setting that is at
fault (`Settings.Violates`).  A check can also end in a third way: an address cannot be
read at all, and that is no failure of the taxonomy (`Verdict`).  Checks that follow one
another put their verdicts together (`Verdict.bind`).

A configuration says the same as the settings that it was made of, apart from the spelling
of its flow, so making it again of its own settings changes nothing.
-/
import TokenFlow.Proofs.CallbackRoundTrip
import TokenFlow.Proofs.Opening

namespace TokenFlow

set_option autoImplicit false

open TokenFlow.Text

/-! ## Flows -/

namespace Flow

/-- The ways to write a flow, in small letters. -/
def spellings : Flow → List String
  | .authorizationCode => ["authorization_code", "authorization-code"]
  | .delegated => ["server_side", "server-side", "serverside"]

/-- A text spells a flow in letters of any case, with blanks around the word. -/
def Spells (text : String) (flow : Flow) : Prop :=
  ∃ before word after, text.toList = before ++ word ++ after ∧
    (∀ c ∈ before ++ after, isSeparator c = true) ∧
    String.ofList (lowerAscii word) ∈ flow.spellings

theorem ofWord?_eq_some_iff {word : List Char} {flow : Flow} :
    ofWord? word = some flow ↔ String.ofList word ∈ flow.spellings := by
  have apart : ∀ spelling ∈ spellings .authorizationCode, spelling ∉ spellings .delegated := by
    decide
  have code : ["authorization_code", "authorization-code"].contains (String.ofList word) = true ↔
      String.ofList word ∈ spellings .authorizationCode := List.contains_iff_mem
  have service : ["server_side", "server-side", "serverside"].contains (String.ofList word) =
      true ↔ String.ofList word ∈ spellings .delegated := List.contains_iff_mem
  unfold ofWord?
  simp only [code, service]
  by_cases first : String.ofList word ∈ spellings .authorizationCode
  · have second := apart _ first
    cases flow <;> simp [first, second]
  · cases flow <;> simp [first]

theorem isSeparator_of_toLower {c : Char} (above : 0x20 < c.toLower.toNat)
    (below : c.toLower.toNat < 0x7F) : isSeparator c = false := by
  unfold Char.toLower at above below
  split at above
  · rename_i capital
    obtain ⟨first, last⟩ := capital
    rw [ge_iff_le, UInt32.le_iff_toNat_le] at first
    rw [UInt32.le_iff_toNat_le] at last
    exact isSeparator_of_visible (Nat.lt_of_lt_of_le (by decide) first)
      (Nat.lt_of_le_of_lt last (by decide))
  · rename_i small
    rw [dif_neg small] at below
    exact isSeparator_of_visible above below

theorem solid_of_mem_spellings {word : List Char} {flow : Flow}
    (spelled : String.ofList (lowerAscii word) ∈ flow.spellings) :
    ∀ c ∈ word, isSeparator c = false := by
  have visible : flow.spellings.all (fun spelling =>
      spelling.toList.all fun c => 0x20 < c.toNat && c.toNat < 0x7F) = true := by
    cases flow <;> decide +kernel
  simp only [List.all_eq_true, Bool.and_eq_true, decide_eq_true_eq] at visible
  intro c found
  have lower : c.toLower ∈ (String.ofList (lowerAscii word)).toList := by
    rw [String.toList_ofList]
    exact List.mem_map_of_mem found
  obtain ⟨above, below⟩ := visible _ spelled _ lower
  exact isSeparator_of_toLower above below

/-- What is left of a text without the blanks around it is the word of its flow. -/
theorem spells_iff {text : String} {flow : Flow} :
    Spells text flow ↔ ofWord? (lowerAscii (trim isSeparator text.toList)) = some flow := by
  rw [ofWord?_eq_some_iff]
  constructor
  · rintro ⟨before, word, after, written, blank, spelled⟩
    rw [written, trim_append blank (solid_of_mem_spellings spelled)]
    exact spelled
  · intro spelled
    obtain ⟨before, after, written, blank⟩ := exists_eq_trim isSeparator text.toList
    exact ⟨before, _, after, written, blank, spelled⟩

theorem not_spells_empty (flow : Flow) : ¬ Spells "" flow := by
  rw [spells_iff]
  cases flow <;> decide

theorem read_name (flow : Flow) : read (some flow.name) = .ok flow := by
  cases flow <;> rfl

end Flow

/-- The settings name a flow. -/
def Settings.Names (settings : Settings) (flow : Flow) : Prop :=
  ∃ text, settings.flow = some text ∧ flow.Spells text

namespace Flow

variable {settings : Settings}

/-- A flow is read when it is named; otherwise the flow is at fault. -/
theorem read_cases (settings : Settings) :
    (∃ flow, read settings.flow = .ok flow ∧ settings.Names flow) ∨
      ∃ cause, read settings.flow = .error cause ∧ cause.setting = .flow ∧
        ∀ flow, ¬ settings.Names flow := by
  unfold read
  cases given : nonempty? settings.flow with
  | none =>
      right
      refine ⟨.flowMissing, rfl, rfl, ?_⟩
      rintro flow ⟨text, same, spelled⟩
      by_cases empty : text = ""
      · exact not_spells_empty flow (empty ▸ spelled)
      · rw [nonempty?_eq_some_iff.mpr ⟨same, empty⟩] at given
        cases given
  | some text =>
      obtain ⟨same, -⟩ := nonempty?_eq_some_iff.mp given
      cases word : ofWord? (lowerAscii (trim isSeparator text.toList)) with
      | some flow =>
          left
          exact ⟨flow, by simp only [word], text, same, spells_iff.mpr word⟩
      | none =>
          right
          refine ⟨.flowUnsupported text, by simp only [word], rfl, ?_⟩
          rintro flow ⟨other, same', spelled⟩
          obtain rfl : text = other := Option.some.inj (same.symm.trans same')
          rw [spells_iff, word] at spelled
          cases spelled

/-- Settings name one flow at most. -/
theorem names_unique {flow other : Flow} (one : settings.Names flow) (two : settings.Names other) :
    flow = other := by
  obtain ⟨text, same, spelled⟩ := one
  obtain ⟨text', same', spelled'⟩ := two
  obtain rfl : text = text' := Option.some.inj (same.symm.trans same')
  rw [spells_iff] at spelled spelled'
  exact Option.some.inj (spelled.symm.trans spelled')

end Flow

/-! ## Addresses -/

/-- An address of the web: its scheme is one of the two, and it names a location. -/
def IsWebAddress (text : String) : Prop :=
  ∃ parts, Url.split text = .ok parts ∧
    (parts.scheme = "http".toList ∨ parts.scheme = "https".toList) ∧ parts.location ≠ []

/-- An address that is left out or left empty is not asked to be one of the web. -/
def WebIfGiven (value : Option String) : Prop :=
  ∀ text, nonempty? value = some text → IsWebAddress text

namespace Configuration

theorem isWebUrl_iff {parts : Url.Parts} :
    isWebUrl parts = true ↔
      (parts.scheme = "http".toList ∨ parts.scheme = "https".toList) ∧ parts.location ≠ [] := by
  have scheme (name : String) : String.ofList parts.scheme = name ↔ parts.scheme = name.toList := by
    rw [← String.toList_inj, String.toList_ofList]
  simp [isWebUrl, scheme]

/-! ## Verdicts -/

/-- What a check comes to: it passes, or it blames a setting, or it stops at an address. -/
inductive Verdict (passes : Prop) (blames : Setting → Prop) (stopsAt : String → Prop) :
    Except Fault Unit → Prop
  | passed (holds : passes) : Verdict passes blames stopsAt (.ok ())
  | blamed {cause : ConfigurationFailure} (fails : ¬ passes) (blame : blames cause.setting) :
      Verdict passes blames stopsAt (.error (.configuration cause))
  | stopped {text : String} {error : Url.UrlError} (fails : ¬ passes) (here : stopsAt text)
      (unread : Url.split text = .error error) :
      Verdict passes blames stopsAt (.error (.address error))

namespace Verdict

variable {passes passes' : Prop} {blames : Setting → Prop} {stopsAt : String → Prop}
  {check check' : Except Fault Unit}

theorem bind (one : Verdict passes blames stopsAt check)
    (two : Verdict passes' blames stopsAt check') :
    Verdict (passes ∧ passes') blames stopsAt (check >>= fun _ => check') := by
  cases one with
  | passed holds =>
      cases two with
      | passed holds' => exact .passed ⟨holds, holds'⟩
      | blamed fails blame => exact .blamed (fun both => fails both.2) blame
      | stopped fails here unread => exact .stopped (fun both => fails both.2) here unread
  | blamed fails blame => exact .blamed (fun both => fails both.1) blame
  | stopped fails here unread => exact .stopped (fun both => fails both.1) here unread

theorem congr (verdict : Verdict passes blames stopsAt check) (same : passes ↔ passes') :
    Verdict passes' blames stopsAt check := by
  rwa [← propext same]

/-- Something that has to be there. -/
theorem require {missing : Prop} [Decidable missing] {cause : ConfigurationFailure}
    (blame : missing → blames cause.setting) :
    Verdict (¬ missing) blames stopsAt
      (if missing then .error (.configuration cause) else .ok ()) := by
  by_cases absent : missing
  · rw [if_pos absent]
    exact .blamed (fun present => present absent) (blame absent)
  · rw [if_neg absent]
    exact .passed absent

/-- An address that has to be one of the web, if it is given. -/
theorem checkUrl {setting : Setting} {value : Option String}
    (blame : ¬ WebIfGiven value → blames setting)
    (stop : ∀ text, nonempty? value = some text → stopsAt text) :
    Verdict (WebIfGiven value) blames stopsAt (Configuration.checkUrl setting value) := by
  unfold Configuration.checkUrl
  cases given : nonempty? value with
  | none =>
      apply Verdict.passed
      intro text other
      rw [given] at other
      cases other
  | some text =>
      have only : WebIfGiven value ↔ IsWebAddress text := by
        simp [WebIfGiven, given]
      rw [only] at blame ⊢
      dsimp only
      cases read : Url.split text with
      | error error =>
          have unread : ¬ IsWebAddress text := by simp [IsWebAddress, read]
          exact .stopped unread (stop text given) read
      | ok parts =>
          have web : IsWebAddress text ↔ isWebUrl parts = true := by
            rw [isWebUrl_iff]
            simp [IsWebAddress, read]
          dsimp only
          by_cases fine : isWebUrl parts = true
          · rw [if_pos fine]
            exact .passed (web.mpr fine)
          · have other := mt web.mp fine
            rw [if_neg fine]
            exact .blamed other (blame other)

end Verdict

/-! ## Acceptance -/

/-- What a configuration has to have, by its flow. -/
inductive Sound (configuration : Configuration) : Prop
  | authorizationCode (flow : configuration.flow = .authorizationCode)
      (client : nonempty? configuration.clientId ≠ none)
      (source : nonempty? configuration.tokenUri ≠ none ∨ nonempty? configuration.issuer ≠ none)
      (token : WebIfGiven configuration.tokenUri)
      (authorization : WebIfGiven configuration.authorizationUrl)
      (issuer : WebIfGiven configuration.issuer) : Sound configuration
  | delegated (flow : configuration.flow = .delegated)
      (server : nonempty? configuration.serverUrl ≠ none)
      (web : WebIfGiven configuration.serverUrl) : Sound configuration

namespace Sound

variable {configuration : Configuration}

/-- The address of a delegated login is there, and is one of the web. -/
theorem server (sound : configuration.Sound) (delegated : configuration.flow = .delegated) :
    ∃ base, configuration.serverUrl = some base ∧ base ≠ "" ∧ IsWebAddress base := by
  cases sound with
  | authorizationCode code => cases code.symm.trans delegated
  | delegated _ given web =>
      obtain ⟨base, given⟩ := Option.ne_none_iff_exists'.mp given
      obtain ⟨here, full⟩ := nonempty?_eq_some_iff.mp given
      exact ⟨base, here, full, web base given⟩

theorem issuer (sound : configuration.Sound) (code : configuration.flow = .authorizationCode) :
    WebIfGiven configuration.issuer := by
  cases sound with
  | authorizationCode _ _ _ _ _ issuer => exact issuer
  | delegated delegated => cases code.symm.trans delegated

end Sound

end Configuration

namespace Settings

/-- The settings that are at fault. -/
inductive Violates (settings : Settings) : Setting → Prop
  | flow (unnamed : ∀ flow, ¬ settings.Names flow) : Violates settings .flow
  | clientId (code : settings.Names .authorizationCode)
      (missing : nonempty? settings.clientId = none) : Violates settings .clientId
  | endpointSource (code : settings.Names .authorizationCode)
      (missing : nonempty? settings.tokenUri = none)
      (missing' : nonempty? settings.issuer = none) : Violates settings .tokenUri
  | tokenUri (code : settings.Names .authorizationCode)
      (other : ¬ WebIfGiven settings.tokenUri) : Violates settings .tokenUri
  | authorizationUrl (code : settings.Names .authorizationCode)
      (other : ¬ WebIfGiven settings.authorizationUrl) : Violates settings .authorizationUrl
  | issuer (code : settings.Names .authorizationCode)
      (other : ¬ WebIfGiven settings.issuer) : Violates settings .issuer
  | missingServer (service : settings.Names .delegated)
      (missing : nonempty? settings.serverUrl = none) : Violates settings .serverUrl
  | serverUrl (service : settings.Names .delegated)
      (other : ¬ WebIfGiven settings.serverUrl) : Violates settings .serverUrl

/-- The addresses that the flow uses. -/
inductive Uses (settings : Settings) : String → Prop
  | tokenUri {text : String} (code : settings.Names .authorizationCode)
      (given : nonempty? settings.tokenUri = some text) : Uses settings text
  | authorizationUrl {text : String} (code : settings.Names .authorizationCode)
      (given : nonempty? settings.authorizationUrl = some text) : Uses settings text
  | issuer {text : String} (code : settings.Names .authorizationCode)
      (given : nonempty? settings.issuer = some text) : Uses settings text
  | serverUrl {text : String} (service : settings.Names .delegated)
      (given : nonempty? settings.serverUrl = some text) : Uses settings text

end Settings

namespace Configuration

theorem checkAuthorizationCode_eq (configuration : Configuration) :
    configuration.checkAuthorizationCode =
      ((if nonempty? configuration.clientId = none then
          .error (.configuration .clientIdMissing) else .ok ()) >>= fun _ =>
        (if nonempty? configuration.tokenUri = none ∧ nonempty? configuration.issuer = none then
          .error (.configuration .endpointSourceMissing) else .ok ()) >>= fun _ =>
        Configuration.checkUrl .tokenUri configuration.tokenUri >>= fun _ =>
        Configuration.checkUrl .authorizationUrl configuration.authorizationUrl >>= fun _ =>
        Configuration.checkUrl .issuer configuration.issuer) := by
  unfold checkAuthorizationCode
  cases nonempty? configuration.clientId <;> cases nonempty? configuration.tokenUri <;>
    cases nonempty? configuration.issuer <;> rfl

theorem checkDelegated_eq (configuration : Configuration) :
    configuration.checkDelegated =
      ((if nonempty? configuration.serverUrl = none then
          .error (.configuration .serverUrlMissing) else .ok ()) >>= fun _ =>
        Configuration.checkUrl .serverUrl configuration.serverUrl) := by
  unfold checkDelegated
  cases nonempty? configuration.serverUrl <;> rfl

variable {settings : Settings}

/-- The check of a flow that the settings name. -/
theorem check_verdict {flow : Flow} (named : settings.Names flow) :
    Verdict (unchecked settings flow).Sound settings.Violates settings.Uses
      (unchecked settings flow).check := by
  cases flow with
  | authorizationCode =>
      show Verdict _ _ _ (unchecked settings .authorizationCode).checkAuthorizationCode
      rw [checkAuthorizationCode_eq]
      refine Verdict.congr
        (.bind (.require (.clientId named))
          (.bind (.require fun missing => .endpointSource named missing.1 missing.2)
            (.bind (.checkUrl (.tokenUri named) fun _ => .tokenUri named)
              (.bind (.checkUrl (.authorizationUrl named) fun _ => .authorizationUrl named)
                (.checkUrl (.issuer named) fun _ => .issuer named))))) ⟨?_, ?_⟩
      · rintro ⟨client, source, token, authorization, issuer⟩
        rw [Classical.not_and_iff_not_or_not] at source
        exact .authorizationCode rfl client source token authorization issuer
      · intro sound
        cases sound with
        | authorizationCode flow client source token authorization issuer =>
            rw [← Classical.not_and_iff_not_or_not] at source
            exact ⟨client, source, token, authorization, issuer⟩
        | delegated flow => cases flow
  | delegated =>
      show Verdict _ _ _ (unchecked settings .delegated).checkDelegated
      rw [checkDelegated_eq]
      refine Verdict.congr
        (.bind (.require (.missingServer named))
          (.checkUrl (.serverUrl named) fun _ => .serverUrl named)) ⟨?_, ?_⟩
      · rintro ⟨server, web⟩
        exact .delegated rfl server web
      · intro sound
        cases sound with
        | authorizationCode flow => cases flow
        | delegated flow server web => exact ⟨server, web⟩

/-- A configuration is sound when nothing that it is made of is at fault. -/
theorem sound_iff {flow : Flow} (named : settings.Names flow) :
    (unchecked settings flow).Sound ↔ ∀ setting, ¬ settings.Violates setting := by
  constructor
  · intro sound setting violated
    cases sound with
    | authorizationCode code client source token authorization issuer =>
        obtain rfl : flow = .authorizationCode := code
        have notDelegated : ¬ settings.Names .delegated := fun other => by
          cases Flow.names_unique named other
        cases violated with
        | flow unnamed => exact unnamed _ named
        | clientId _ missing => exact client missing
        | endpointSource _ missing missing' => exact source.elim (· missing) (· missing')
        | tokenUri _ other => exact other token
        | authorizationUrl _ other => exact other authorization
        | issuer _ other => exact other issuer
        | missingServer service => exact notDelegated service
        | serverUrl service => exact notDelegated service
    | delegated service server web =>
        obtain rfl : flow = .delegated := service
        have notCode : ¬ settings.Names .authorizationCode := fun other => by
          cases Flow.names_unique named other
        cases violated with
        | flow unnamed => exact unnamed _ named
        | missingServer _ missing => exact server missing
        | serverUrl _ other => exact other web
        | clientId code => exact notCode code
        | endpointSource code => exact notCode code
        | tokenUri code => exact notCode code
        | authorizationUrl code => exact notCode code
        | issuer code => exact notCode code
  · intro blameless
    have given {value : Option String} {setting : Setting}
        (blame : ¬ WebIfGiven value → settings.Violates setting) : WebIfGiven value :=
      Classical.byContradiction fun other => blameless setting (blame other)
    cases flow with
    | authorizationCode =>
        refine .authorizationCode rfl (fun missing => blameless _ (.clientId named missing)) ?_
          (given (.tokenUri named)) (given (.authorizationUrl named)) (given (.issuer named))
        rw [← Classical.not_and_iff_not_or_not]
        exact fun missing => blameless _ (.endpointSource named missing.1 missing.2)
    | delegated =>
        exact .delegated rfl (fun missing => blameless _ (.missingServer named missing))
          (given (.serverUrl named))

theorem sound_of_ofSettings {configuration : Configuration}
    (accepted : ofSettings settings = .ok configuration) : configuration.Sound := by
  obtain ⟨flow, read, named⟩ | ⟨cause, refused, -, -⟩ := Flow.read_cases settings
  · have verdict := check_verdict named
    rw [ofSettings_of_read read] at accepted
    cases checked : (unchecked settings flow).check with
    | error fault =>
        rw [checked] at accepted
        cases accepted
    | ok _ =>
        rw [checked] at accepted verdict
        obtain rfl : unchecked settings flow = configuration := Except.ok.inj accepted
        cases verdict with
        | passed sound => exact sound
  · unfold ofSettings at accepted
    rw [refused] at accepted
    cases accepted

/-- What an accepted configuration says is made into the same configuration again. -/
theorem ofSettings_settings {flow : Flow}
    (checked : (unchecked settings flow).check = .ok ()) :
    ofSettings (unchecked settings flow).settings = .ok (unchecked settings flow) := by
  have read : Flow.read (unchecked settings flow).settings.flow = .ok flow := Flow.read_name flow
  have same : unchecked (unchecked settings flow).settings flow = unchecked settings flow := rfl
  rw [ofSettings_of_read read, same, checked]
  rfl

/-- Settings are accepted when nothing is wrong with them, and a configuration keeps
everything that it is made of and is made again of what it keeps.  Other settings are
refused with a setting that is at fault, or they hold an address that cannot be read, and
the first of these that the check comes to escapes. -/
theorem ofSettings_total (settings : Settings) :
    ((∃ configuration, ofSettings settings = .ok configuration) ↔
      ∀ setting, ¬ settings.Violates setting) ∧
    ((∃ configuration, ofSettings settings = .ok configuration ∧
        settings.Names configuration.flow ∧ configuration.Sound ∧
        configuration.settings = { settings with flow := some configuration.flow.name } ∧
        ofSettings configuration.settings = .ok configuration) ∨
      (∃ cause, ofSettings settings = .error (.configuration cause) ∧
        settings.Violates cause.setting) ∨
      ∃ text error, ofSettings settings = .error (.address error) ∧ settings.Uses text ∧
        Url.split text = .error error) := by
  have notOk {fault : Fault} (made : ofSettings settings = .error fault) :
      ¬ ∃ configuration, ofSettings settings = .ok configuration := by
    rw [made]
    rintro ⟨_, accepted⟩
    cases accepted
  obtain ⟨flow, read, named⟩ | ⟨cause, refused, here, unnamed⟩ := Flow.read_cases settings
  · have verdict := check_verdict named
    have made := ofSettings_of_read read
    rw [← sound_iff named]
    cases checked : (unchecked settings flow).check with
    | ok _ =>
        rw [checked] at verdict made
        cases verdict with
        | passed sound =>
            exact ⟨iff_of_true ⟨_, made⟩ sound, .inl ⟨unchecked settings flow, made, named,
              sound, rfl, ofSettings_settings checked⟩⟩
    | error fault =>
        rw [checked] at verdict made
        cases verdict with
        | blamed unsound blame =>
            exact ⟨iff_of_false (notOk made) unsound, .inr (.inl ⟨_, made, blame⟩)⟩
        | stopped unsound used unread =>
            exact ⟨iff_of_false (notOk made) unsound, .inr (.inr ⟨_, _, made, used, unread⟩)⟩
  · have made : ofSettings settings = .error (.configuration cause) := by
      unfold ofSettings
      rw [refused]
      rfl
    have violated : settings.Violates cause.setting := here ▸ .flow unnamed
    exact ⟨iff_of_false (notOk made) fun blameless => blameless _ violated,
      .inr (.inl ⟨cause, made, violated⟩)⟩

/-- An address whose brackets do not match is refused by no failure of the taxonomy. -/
theorem unreadable_address_escapes :
    ¬ ∀ settings : Settings,
      (∃ configuration, ofSettings settings = .ok configuration) ∨
        ∃ cause, ofSettings settings = .error (.configuration cause) := by
  intro total
  have escaped : ofSettings { Settings.default with serverUrl := some "http://[" } =
      .error (.address .brackets) := rfl
  obtain ⟨_, accepted⟩ | ⟨_, refused⟩ :=
    total { Settings.default with serverUrl := some "http://[" }
  · rw [escaped] at accepted
    cases accepted
  · rw [escaped] at refused
    cases refused

end Configuration

end TokenFlow
