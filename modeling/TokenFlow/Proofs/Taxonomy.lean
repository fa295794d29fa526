/-
# TokenFlow.Proofs.Taxonomy -- what an accepted configuration can fail with

A configuration that was accepted has everything that its provider cannot do without, so
opening it gives an account, or a failure that a caller handles, unless the network stops
it.  The same goes for every call on the account, however often it is called and in
whatever world: it gives a token or a failure, unless something outside that taxonomy stops
it (`Provider.Stops`).  This is an address or an answer that the network cannot take, a
refusal whose text no codec can read, a time to wait that is beyond all doubles or longer
than the system waits, what whoever opens pages raises, or a grant that is to last longer
than any double tells.

The last one is up to the token endpoint: with a plain configuration, one answer ends a
login in an overflow (`firstCaller`).
-/
import TokenFlow.Proofs.DelegatedCall
import TokenFlow.Proofs.FailedCall
import TokenFlow.Proofs.Opening

namespace TokenFlow

set_option autoImplicit false

open TokenFlow.Number TokenFlow.World

/-! ## What stops a call -/

namespace Provider

/-- What can stop a call that had these prospects and made these enquiries. -/
inductive Stops (prospects : Prospects) : Provider → List Enquiry → Fault → Prop
  | accounted {provider : Provider} {entries : List Enquiry} {fault : Fault}
      (accounted : Accounted provider.waits entries fault) :
      Stops prospects provider entries fault
  /-- A response with another status than 200 is told as text, and its text cannot be read. -/
  | illegible {provider : Provider} {entries : List Enquiry} {entry : Enquiry}
      {response : Http.Response} {cause : Foreign} (found : entry ∈ entries)
      (answer : entry.answer = .ok (.ok response)) (refused : response.status ≠ 200)
      (illegible : response.text = .error cause) :
      Stops prospects provider entries (.foreign cause)
  /-- Whoever was to open the page raised this. -/
  | raised {provider : Provider} {entries : List Enquiry} {fault : Fault}
      (raised : prospects.opening = .raised fault) : Stops prospects provider entries fault
  /-- The system does not wait that long for a redirect. -/
  | refused {provider : CodeProvider} {entries : List Enquiry}
      (refused : provider.callbackTimeout.exceeds prospects.longestWait = true) :
      Stops prospects (.code provider) entries .overflow
  /-- The token endpoint gave a grant, with a lifetime beyond all doubles. -/
  | lifetime {provider : CodeProvider} {entries : List Enquiry} {entry : Enquiry}
      {grant : Document.Grant} (found : entry ∈ entries) (granted : entry.grant? = some grant)
      (endless : Binary64.ofInt? grant.lifetime = none) :
      Stops prospects (.code provider) entries .overflow

theorem Stops.mono {prospects : Prospects} {provider : Provider} {entries more : List Enquiry}
    {fault : Fault} (stops : Stops prospects provider entries fault) (subset : entries ⊆ more) :
    Stops prospects provider more fault := by
  cases stops with
  | accounted accounted => exact .accounted (accounted.mono subset)
  | illegible found answer refused illegible =>
      exact .illegible (subset found) answer refused illegible
  | raised raised => exact .raised raised
  | refused refused => exact .refused refused
  | lifetime found granted endless => exact .lifetime (subset found) granted endless

end Provider

namespace CodeProvider

open Provider (Stops)

variable {provider : CodeProvider} {prospects : Prospects} {entries : List Enquiry}
  {entry : Enquiry} {fault : Fault}  {before after : World}

theorem stops_of_credential {step : GrantStep} {endpoint : String} {clock : Binary64}
    (asks : before.Asks after entries) (found : entry ∈ entries)
    (h : entry.credential step endpoint clock = .error fault) :
    Stops prospects (.code provider) entries fault := by
  rcases entry.credential_cases step endpoint clock with
    ⟨grant, granted, given⟩ | ⟨cause, stopped, -, given⟩ | ⟨cause, -, -, given⟩
  · obtain ⟨rfl, endless⟩ := Credential.ofGrant_eq_error (given.symm.trans h)
    exact .lifetime found granted endless
  · obtain rfl : cause = fault := Except.error.inj (given.symm.trans h)
    rcases Enquiry.fault?_cases stopped with answer | ⟨response, cause, answer, illegible, rfl⟩
    · exact .accounted (.network found answer (asks.isOfNetwork found answer))
    · obtain ⟨refused, text⟩ := Http.Response.status_of_illegible illegible
      exact .illegible found answer refused text
  · obtain rfl : Fault.failure (.token cause) = fault := Except.error.inj (given.symm.trans h)
    exact .accounted (.failure _)

theorem stops_of_codeless (fits : (Provider.code provider).Fits)
    (codeless : provider.Codeless prospects fault) :
    Stops prospects (.code provider) entries fault := by
  cases codeless with
  | failure cause => exact .accounted (.failure cause)
  | raised raised => exact .raised raised
  | endless endless => exact .accounted (.endless (List.mem_singleton_self _) endless)
  | refused refused => exact .refused refused
  | verifierLength outside => exact absurd fits outside

theorem stops_of_fails (fits : (Provider.code provider).Fits) (asks : before.Asks after entries)
    (fails : provider.Fails prospects fault entries) :
    Stops prospects (.code provider) entries fault := by
  cases fails with
  | codeless codeless ungranted => exact stops_of_codeless fits codeless
  | answered ungranted stopped =>
      exact stops_of_credential asks (List.mem_append_right _ (List.mem_singleton_self _)) stopped

theorem flow_stops (fits : (Provider.code provider).Fits) (login : Login) :
    ∃ entries, login.world.Asks (provider.flow login).2.world entries ∧
      ∀ fault, (provider.flow login).1 = .error fault →
        Stops login.world.prospects (.code provider) entries fault := by
  obtain ⟨entries, ledger, ends⟩ := provider.flow_ledger login
  exact ⟨entries, ledger.asks, fun fault stopped =>
    stops_of_fails fits ledger.asks (ends.fails stopped)⟩

end CodeProvider

namespace DelegatedProvider

open Provider (Stops)

variable (provider : DelegatedProvider)

/-- What comes behind the initiation is stopped by its page, or by the rounds of polling. -/
theorem visit_stops (given : Document.Initiation) (world : World) :
    ∃ entries, world.Asks (provider.visit given world).2 entries ∧
      ∀ fault, (provider.visit given world).1 = .error fault →
        Stops world.prospects (.delegated provider) entries fault := by
  obtain ⟨launched, opens, visited⟩ := provider.visit_opens given world
  have asks : world.Asks launched [] := opens.asks rfl
  rw [visited]
  cases unopened : (takeVisit world).1.opening.fault? given.loginUrl with
  | none =>
      obtain ⟨entries, asks', accounted⟩ :=
        provider.pollForToken_accounts given.session launched
      exact ⟨entries, asks.trans_left asks', fun fault stopped =>
        .accounted (accounted fault stopped)⟩
  | some cause =>
      refine ⟨[], asks, fun fault stopped => ?_⟩
      obtain rfl : cause = fault := Except.error.inj stopped
      rcases Opening.fault?_cases unopened with ⟨failure, rfl⟩ | raised
      · exact .accounted (.failure failure)
      · exact .raised raised

theorem runSession_stops (world : World) :
    ∃ entries, world.Asks (provider.runSession world).2 entries ∧
      ∀ fault, (provider.runSession world).1 = .error fault →
        Stops world.prospects (.delegated provider) entries fault := by
  obtain ⟨asked, proceeds, same, ran⟩ := provider.runSession_asks world
  let answered := consult (.get provider.initiationUrl) world.replies
  have asks : world.Asks asked [⟨.get provider.initiationUrl, answered.1⟩] := proceeds.asks rfl
  have here : (⟨.get provider.initiationUrl, answered.1⟩ : Enquiry) ∈
      [(⟨.get provider.initiationUrl, answered.1⟩ : Enquiry)] := List.mem_singleton_self _
  rw [ran]
  cases told : initiated answered.1 with
  | error cause =>
      refine ⟨_, asks, fun fault stopped => ?_⟩
      obtain rfl : cause = fault := Except.error.inj stopped
      rcases initiated_eq_error told with
        answer | ⟨failure, rfl⟩ | ⟨response, cause, answer, refused, text, rfl⟩
      · exact .accounted (.network here answer (asks.isOfNetwork here answer))
      · exact .accounted (.failure failure)
      · exact .illegible here answer refused text
  | ok given =>
      obtain ⟨later, asks', stops⟩ := provider.visit_stops given asked
      refine ⟨_, asks.trans asks', fun fault stopped => ?_⟩
      rw [same] at stops
      exact (stops fault stopped).mono (List.subset_append_right _ later)

/-- Telling a fault in other words makes a failure of it, if anything. -/
theorem flow_stops (login : Login) :
    ∃ entries, login.world.Asks (provider.flow login).2.world entries ∧
      ∀ fault, (provider.flow login).1 = .error fault →
        Stops login.world.prospects (.delegated provider) entries fault := by
  obtain ⟨entries, asks, stops⟩ := provider.runSession_stops login.world
  have retold : provider.logIn login.world =
      ((provider.runSession login.world).1.mapError told, (provider.runSession login.world).2) :=
    rfl
  rcases ran : provider.runSession login.world with ⟨cause | value, world⟩
  · rw [ran] at asks stops retold
    rw [flow, Act.bind_of_error (Login.inWorld_of retold)]
    refine ⟨entries, asks, fun fault h => ?_⟩
    obtain rfl : told cause = fault := Except.error.inj h
    rcases told_cases cause with same | ⟨failure, same⟩
    · rw [same]
      exact stops cause rfl
    · rw [same]
      exact .accounted (.failure failure)
  · rw [ran] at asks retold
    rw [flow, Act.bind_of_ok (Login.inWorld_of retold)]
    refine ⟨entries, asks, fun fault h => ?_⟩
    cases h

end DelegatedProvider

namespace Provider

variable {provider : Provider}

theorem flow_stops (fits : provider.Fits) (login : Login) :
    ∃ entries, login.world.Asks (provider.flow login).2.world entries ∧
      ∀ fault, (provider.flow login).1 = .error fault →
        Stops login.world.prospects provider entries fault := by
  cases provider with
  | code provider => exact CodeProvider.flow_stops fits login
  | delegated provider => exact provider.flow_stops login

/-- Outside its flow there is nothing in a call that could stop. -/
theorem getToken_stops (fits : provider.Fits) {login : Login} {fault : Fault}
    (h : (provider.getToken login).1 = .error fault) :
    Stops login.world.prospects provider
      (login.world.asked (provider.getToken login).2.world) fault := by
  cases look : login.credentials.usable? login.world.clock provider.buffer with
  | some value =>
      rw [getToken_of_usable look] at h
      cases h
  | none =>
      obtain ⟨result, world, -⟩ := getToken_of_flow look
      obtain ⟨entries, asks, stops⟩ := flow_stops fits (login.setLocked true)
      have same : login.world.asked (provider.getToken login).2.world = entries := by
        rw [world]
        exact asks.asked_eq
      rw [result] at h
      rw [same]
      cases flown : (provider.flow (login.setLocked true)).1 with
      | ok credential =>
          rw [flown] at h
          cases h
      | error cause =>
          rw [flown] at h
          obtain rfl : cause = fault := Except.error.inj h
          exact stops cause flown

end Provider

/-! ## What stops an account -/

namespace Configuration

/-- Opening the account of an accepted configuration comes to an account, or stops at what
is accounted for, or at an advertised address that cannot be read.  Whenever the account is
then asked for a token, and whatever was kept and has happened until then, the call comes to
a token or to something that can stop a call of its provider. -/
theorem stops_of_accepted (settings : Settings) (configuration : Configuration)
    (accepted : ofSettings settings = .ok configuration) (advertised : Option String)
    (options : Options) (agent : Agent) :
    (∀ fault, (configuration.account advertised options agent).1 = .error fault →
      Accounted [] (agent.world.asked (configuration.account advertised options agent).2.world)
          fault ∨
        ∃ url cause, advertised = some url ∧ Url.split url = .error cause ∧
          fault = .address cause) ∧
    ∀ account, (configuration.account advertised options agent).1 = .ok account →
      account.provider.waits ⊆ options.waits ∧
        ∀ (later : Agent) (fault : Fault), (account.getToken later).1 = .error fault →
          Provider.Stops later.world.prospects account.provider
            (later.world.asked (account.getToken later).2.world) fault := by
  have complete := complete_of_ofSettings accepted
  rcases opening : configuration.account advertised options agent with ⟨result, after⟩
  constructor
  · rintro fault rfl
    exact account_of_error complete opening
  · rintro account rfl
    obtain ⟨fits, waits⟩ :=
      configuration.account_gives advertised options agent account (by rw [opening])
    refine ⟨waits, fun later fault stopped => ?_⟩
    have called : (account.provider.getToken ⟨account.credentials later, later.world⟩).1 =
        .error fault := stopped
    exact Provider.getToken_stops fits called

/-- Settings of a login with a code, with nothing unusual in them. -/
def plainSettings : Settings :=
  { Settings.default with
    flow := some "authorization_code"
    tokenUri := some "https://idp.example/token"
    authorizationUrl := some "https://idp.example/authorize"
    clientId := some "client" }

def plain : Configuration :=
  unchecked plainSettings .authorizationCode

/-- A first caller, whose browser brings the code, and who gets a grant without end. -/
def firstCaller : Agent :=
  .start { CodeProvider.firstCall.world with replies := [.response CodeProvider.endlessGrant] }

/-- The account that is opened. -/
def plainAccount : Account :=
  ⟨.code CodeProvider.client, 0⟩

theorem ofSettings_plain : ofSettings plainSettings = .ok plain := by
  decide +kernel

theorem account_plain :
    (plain.account none .default firstCaller).1 = .ok plainAccount := by
  decide +kernel

/-- The page will be opened, and any wait can be had. -/
theorem prospects_plain :
    (plain.account none .default firstCaller).2.world.prospects.opening = .opened ∧
      (plain.account none .default firstCaller).2.world.prospects.longestWait =
        .infinite false := by
  decide +kernel

theorem getToken_plainAccount :
    (plainAccount.getToken (plain.account none .default firstCaller).2).1 = .error .overflow := by
  decide +kernel

/-- When the call of a plain account ends in an overflow, there is only the lifetime of a
grant to blame. -/
theorem stops_plainAccount :
    let opened := (plain.account none .default firstCaller).2
    ∃ entry ∈ opened.world.asked (plainAccount.getToken opened).2.world, ∃ grant,
      entry.grant? = some grant ∧ Binary64.ofInt? grant.lifetime = none := by
  intro opened
  obtain ⟨-, calls⟩ :=
    stops_of_accepted plainSettings plain ofSettings_plain none .default firstCaller
  obtain ⟨waits, stops⟩ := calls plainAccount account_plain
  obtain ⟨opening, longest⟩ := prospects_plain
  cases stops opened .overflow getToken_plainAccount with
  | accounted accounted =>
      cases accounted with
      | network found answer network => exact absurd network id
      | endless found endless =>
          have finite : ∀ wait ∈ Options.default.waits, wait.toBinary64?.isSome := by
            decide +kernel
          have some := finite _ (waits found)
          rw [endless] at some
          cases some
  | raised raised =>
      rw [opening] at raised
      cases raised
  | refused refused =>
      rw [longest] at refused
      have fine : CodeProvider.client.callbackTimeout.exceeds (.infinite false) = false := by
        decide +kernel
      rw [fine] at refused
      cases refused
  | lifetime found granted endless => exact ⟨_, found, _, granted, endless⟩

/-- So there is more to be ready for than the failures of the taxonomy. -/
theorem overflow_escapes :
    ¬ ∀ (settings : Settings) (configuration : Configuration),
      ofSettings settings = .ok configuration →
        ∀ (advertised : Option String) (options : Options) (agent : Agent) (account : Account),
          (configuration.account advertised options agent).1 = .ok account →
            ∀ (later : Agent) (fault : Fault), (account.getToken later).1 = .error fault →
              ∃ failure, fault = .failure failure := by
  intro claimed
  obtain ⟨failure, overflow⟩ := claimed plainSettings plain ofSettings_plain none .default
    firstCaller plainAccount account_plain _ .overflow getToken_plainAccount
  cases overflow

end Configuration

end TokenFlow
