/-
# TokenFlow.Proofs.DelegatedCall -- what a delegated login does, and in which order

A login asks for an initiation, opens the page that it names, and polls for the session
that it names.  Each of these is done only when the one before came to something.  What has
been done by then is the outline of the trace; the clock does not move before the first
poll, and the network has answered once (`World.Proceeds`).

Nothing is listening for a redirect here.  Whatever the browser sends goes to a listener of
somebody else, if there is one, and is left out.
-/
import TokenFlow.Proofs.Acquisition
import TokenFlow.Proofs.PathSegment
import TokenFlow.Proofs.PollingRounds

namespace TokenFlow

set_option autoImplicit false

open TokenFlow.Number TokenFlow.Document

namespace World

/-! ## Deeds and enquiries -/

/-- What is left out of an outline asks the network nothing. -/
theorem enquiries_outline (replies : List Http.Reply) (events : List Event) :
    enquiries replies (outline events) = enquiries replies events ∧
      unused replies (outline events) = unused replies events := by
  induction events generalizing replies with
  | nil => exact ⟨rfl, rfl⟩
  | cons event events ih =>
      cases event with
      | redirect | callback => exact ih replies
      | request request =>
          obtain ⟨told, left⟩ := ih (consult request replies).2
          exact ⟨congrArg (List.cons _) told, left⟩
      | client | browser | listen | close | sleep => exact ih replies

/-- These deeds were done while the clock stood still, and these replies are left. -/
structure Proceeds (before after : World) (deeds : List Event) (replies : List Http.Reply) :
    Prop where
  trace : ∃ events, after.trace = before.trace ++ events ∧ outline events = deeds
  clock : after.clock = before.clock
  replies : after.replies = replies

theorem Proceeds.trans {before middle after : World} {deeds deeds' : List Event}
    {replies replies' : List Http.Reply} (first : before.Proceeds middle deeds replies)
    (second : middle.Proceeds after deeds' replies') :
    before.Proceeds after (deeds ++ deeds') replies' where
  trace := outline_trans first.trace second.trace
  clock := second.clock.trans first.clock
  replies := second.replies

/-- The deeds tell what was asked. -/
theorem Proceeds.asks {before after : World} {deeds : List Event} {replies : List Http.Reply}
    (proceeds : before.Proceeds after deeds replies)
    (left : unused before.replies deeds = replies) :
    before.Asks after (enquiries before.replies deeds) := by
  obtain ⟨events, trace, rfl⟩ := proceeds.trace
  obtain ⟨told, unused⟩ := enquiries_outline before.replies events
  exact ⟨events, trace, told.symm, unused.symm.trans (left.trans proceeds.replies.symm)⟩

end World

open World

namespace DelegatedProvider

variable (provider : DelegatedProvider) {world : World} {given : Initiation} {fault : Fault}

theorem told_cases (fault : Fault) : told fault = fault ∨ ∃ cause, told fault = .failure cause := by
  unfold told
  split
  · split
    · exact .inr ⟨_, rfl⟩
    · exact .inl rfl
  · exact .inl rfl

/-! ## Initiation -/

/-- What is sent first: with a client that checks certificates unless it was told not to. -/
def greeting : List Event :=
  [.client (.create none (!provider.disableVerification)),
    .request (.get (provider.baseUrl ++ "/oauth/initiate"))]

/-- What an answer of the service is taken for at first. -/
def initiated : Except Fault (Except String Http.Response) → Except Fault Initiation
  | .error fault => .error fault
  | .ok (.error detail) => .error (.failure (.delegationUnreachable detail))
  | .ok (.ok response) => initiationOf response

/-- What comes after that. -/
def visit (given : Initiation) : WorldAct String := do
  World.write .info .provider "Opening browser for server-side SSO login..."
  let _ ← World.launchBrowser given.loginUrl
  World.write .info .provider "Waiting for authentication to complete..."
  provider.pollForToken given.session

/-- What is no initiation is a failure, unless the network raised it, or it is a refusal
whose text cannot be read. -/
theorem initiated_eq_error {answer : Except Fault (Except String Http.Response)}
    (h : initiated answer = .error fault) :
    answer = .error fault ∨ (∃ failure, fault = .failure failure) ∨
      ∃ response cause, answer = .ok (.ok response) ∧ response.status ≠ 200 ∧
        response.text = .error cause ∧ fault = .foreign cause := by
  rcases answer with raised | detail | response
  · exact .inl (congrArg _ (Except.error.inj h))
  · exact .inr (.inl ⟨_, (Except.error.inj h).symm⟩)
  · right
    simp only [initiated, initiationOf] at h
    split at h
    · split at h
      · cases h
      · exact .inl ⟨_, (Except.error.inj h).symm⟩
    · rename_i refused
      unfold refuse at h
      split at h
      · exact .inl ⟨_, (Except.error.inj h).symm⟩
      · rename_i cause illegible
        exact .inr ⟨response, cause, rfl, refused, illegible, (Except.error.inj h).symm⟩

/-- A final status 200 with an initiation in it is one, and nothing else is. -/
theorem initiated_eq_ok_iff {answer : Except Fault (Except String Http.Response)} :
    initiated answer = .ok given ↔
      ∃ response, answer = .ok (.ok response) ∧ response.status = 200 ∧
        Initiation.ofBody response.body = .ok given := by
  constructor
  · intro h
    rcases answer with fault | detail | response
    · cases h
    · cases h
    · simp only [initiated, initiationOf] at h
      by_cases fine : response.status = 200
      · rw [if_pos fine] at h
        cases read : Initiation.ofBody response.body with
        | ok found =>
            rw [read] at h
            exact ⟨response, rfl, fine, read.trans (congrArg _ (Except.ok.inj h))⟩
        | error issues =>
            rw [read] at h
            cases h
      · rw [if_neg fine] at h
        cases h
  · rintro ⟨response, rfl, fine, read⟩
    simp only [initiated, initiationOf, fine, read, if_true]

/-- The first answer decides whether there is anything to visit. -/
theorem runSession_asks (world : World) :
    ∃ asked, world.Proceeds asked provider.greeting
        (consult (.get provider.initiationUrl) world.replies).2 ∧
      asked.prospects = world.prospects ∧
      provider.runSession world =
        match initiated (consult (.get provider.initiationUrl) world.replies).1 with
        | .ok given => provider.visit given asked
        | .error fault => (.error fault, asked) := by
  let created := world.record (.client (.create none (!provider.disableVerification)))
  obtain ⟨replies, redirects, only, after⟩ :=
    World.fetch_frame (.get provider.initiationUrl) created
  obtain ⟨answered, left⟩ := World.fetch_eq_consult (.get provider.initiationUrl) created
  have same : created.replies = world.replies := rfl
  have new : World.newClient (.create none (!provider.disableVerification)) world =
      (.ok (), created) := rfl
  rw [same] at answered left
  rw [← answered, runSession, Act.bind_of_ok new]
  refine ⟨(World.fetch (.get provider.initiationUrl) created).2, ⟨?_, ?_, left⟩, ?_, ?_⟩
  · refine ⟨provider.greeting ++ redirects, ?_, ?_⟩
    · rw [after]
      simp [created, record, greeting, initiationUrl]
    · rw [outline_append, outline_redirects only]
      rfl
  · rw [after]
    rfl
  · rw [after]
    exact prospects_congr rfl rfl rfl rfl
  · rcases fetched : World.fetch (.get provider.initiationUrl) created with
      ⟨fault | detail | response, asked⟩
    · have stopped : ask provider.initiationUrl created = (.error fault, asked) :=
        Act.bind_of_error fetched
      exact Act.bind_of_error stopped
    · have stopped : ask provider.initiationUrl created =
          (.error (.failure (.delegationUnreachable detail)), asked) := Act.bind_of_ok fetched
      exact Act.bind_of_error stopped
    · have came : ask provider.initiationUrl created = (.ok response, asked) :=
        Act.bind_of_ok fetched
      rw [Act.bind_of_ok came, initiated]
      cases initiation : initiationOf response with
      | ok given => exact Act.bind_of_ok (Act.lift_apply ..)
      | error fault => exact Act.bind_of_error (Act.lift_apply ..)

/-- The page is opened, and only then is the session polled for. -/
theorem visit_opens (given : Initiation) (world : World) :
    ∃ launched, world.Proceeds launched [.browser given.loginUrl] world.replies ∧
      provider.visit given world =
        match (takeVisit world).1.opening.fault? given.loginUrl with
        | none => provider.pollForToken given.session launched
        | some fault => (.error fault, launched) := by
  let noted := world.note .info .provider "Opening browser for server-side SSO login..."
  have written : World.write .info .provider "Opening browser for server-side SSO login..." world =
      (.ok (), noted) := rfl
  have sight : (takeVisit noted).1 = (takeVisit world).1 := by
    rw [takeVisit_eq, takeVisit_eq world]
    rfl
  obtain ⟨exchanges, listener, log, launched⟩ := launchBrowser_frame given.loginUrl noted
  rw [sight] at launched
  let browsed : World := { noted with
    visits := noted.visits.tail
    listener
    trace := noted.trace ++ .browser given.loginUrl :: exchangeEvents exchanges
    log }
  have proceeds : world.Proceeds browsed [.browser given.loginUrl] world.replies := by
    refine ⟨⟨.browser given.loginUrl :: exchangeEvents exchanges, rfl, ?_⟩, rfl, rfl⟩
    rw [outline_cons_of_isDeed rfl, outline_exchangeEvents]
  rw [visit, Act.bind_of_ok written]
  cases unopened : (takeVisit world).1.opening.fault? given.loginUrl with
  | none =>
      rw [unopened] at launched
      let waiting := browsed.note .info .provider "Waiting for authentication to complete..."
      rw [Act.bind_of_ok launched]
      exact ⟨waiting, ⟨proceeds.trace, proceeds.clock, proceeds.replies⟩, rfl⟩
  | some fault =>
      rw [unopened] at launched
      exact ⟨browsed, proceeds, Act.bind_of_error launched⟩

/-! ## Polling for a session -/

/-- What polling comes to is what the login comes to, and only the log is written behind it. -/
theorem pollForToken_of_seconds {seconds : Binary64}
    (finite : provider.pollTimeout.toBinary64? = some seconds) (session : String)
    (world : World) :
    let polled := provider.poll (provider.sessionUrl session) seconds (world.clock.add seconds)
      world
    ∃ log, provider.pollForToken session world = (polled.1, { polled.2 with log }) := by
  have told : (Act.seconds provider.pollTimeout : WorldAct Binary64) world =
      (.ok seconds, world) := by
    rw [Act.seconds, finite]
    rfl
  rw [pollForToken, Act.bind_of_ok (Act.get_apply world), Act.bind_of_ok told]
  rcases polled : provider.poll (provider.sessionUrl session) seconds (world.clock.add seconds)
    world with ⟨fault | token, after⟩
  · exact ⟨after.log, Act.bind_of_error polled⟩
  · exact ⟨_, Act.bind_of_ok polled⟩

/-- An interval beyond all doubles cannot be waited for, and nothing is asked. -/
theorem poll_of_endless (endless : provider.pollInterval.elapsed? = none) (url : String)
    (seconds deadline : Binary64) (world : World) :
    (provider.poll url seconds deadline world).2 = world ∨
      provider.poll url seconds deadline world =
        (.error .overflow, world.record (.sleep provider.pollInterval)) := by
  by_cases timely : world.clock.lt deadline = true
  · have slept : World.sleep provider.pollInterval world =
        (.error .overflow, world.record (.sleep provider.pollInterval)) := by
      simp [World.sleep, World.emit, Act.bind_apply, World.elapse, endless]
    have round : provider.pollOnce url world =
        (.error .overflow, world.record (.sleep provider.pollInterval)) := Act.bind_of_error slept
    right
    rw [provider.poll_of_early timely, round]
  · left
    rw [poll, if_neg timely]

/-- Polling is a number of rounds, or one wait that cannot be. -/
theorem pollForToken_deeds (session : String) (world : World) :
    ∃ events, (provider.pollForToken session world).2.trace = world.trace ++ events ∧
      ((∃ count, outline events = provider.rounds (provider.sessionUrl session) count) ∨
        provider.pollInterval.elapsed? = none ∧
          outline events = [.sleep provider.pollInterval] ∧
          (provider.pollForToken session world).1 = .error .overflow) := by
  cases finite : provider.pollTimeout.toBinary64? with
  | none =>
      have told : (Act.seconds provider.pollTimeout : WorldAct Binary64) world =
          (.error .overflow, world) := by
        rw [Act.seconds, finite]
        rfl
      rw [pollForToken, Act.bind_of_ok (Act.get_apply world), Act.bind_of_error told]
      exact ⟨[], (List.append_nil _).symm, .inl ⟨0, rfl⟩⟩
  | some seconds =>
      obtain ⟨log, polled⟩ := provider.pollForToken_of_seconds finite session world
      rw [polled]
      cases passes : provider.pollInterval.elapsed? with
      | some interval =>
          obtain ⟨count, rounds, -⟩ := poll_ends passes (provider.sessionUrl session) seconds
            (world.clock.add seconds) world
          obtain ⟨events, trace, deeds⟩ := rounds.trace
          exact ⟨events, trace, .inl ⟨count, deeds⟩⟩
      | none =>
          rcases provider.poll_of_endless passes (provider.sessionUrl session) seconds
            (world.clock.add seconds) world with late | stopped
          · exact ⟨[], by rw [late, List.append_nil], .inl ⟨0, rfl⟩⟩
          · rw [stopped]
            exact ⟨[.sleep provider.pollInterval], rfl, .inr ⟨rfl, rfl, rfl⟩⟩

/-! ## Logins -/

/-- What a login does, by what it was answered first and what became of its page, and what
its session comes to. -/
inductive LogInDeeds : Except Fault Initiation → Opening → List Event → Except Fault String → Prop
  | uninitiated (fault : Fault) (opening : Opening) :
      LogInDeeds (.error fault) opening provider.greeting (.error fault)
  | unopened (given : Initiation) {opening : Opening} {fault : Fault}
      (unopened : opening.fault? given.loginUrl = some fault) :
      LogInDeeds (.ok given) opening (provider.greeting ++ [.browser given.loginUrl])
        (.error fault)
  | polled (given : Initiation) (count : Nat) (result : Except Fault String) :
      LogInDeeds (.ok given) .opened
        (provider.greeting ++ [.browser given.loginUrl]
          ++ provider.rounds (provider.sessionUrl given.session) count) result
  | endless (given : Initiation) (endless : provider.pollInterval.elapsed? = none) :
      LogInDeeds (.ok given) .opened
        (provider.greeting ++ [.browser given.loginUrl] ++ [.sleep provider.pollInterval])
        (.error .overflow)

theorem logIn_deeds (world : World) :
    ∃ events, (provider.logIn world).2.trace = world.trace ++ events ∧
      provider.LogInDeeds
        (initiated (consult (.get provider.initiationUrl) world.replies).1)
        (takeVisit world).1.opening (outline events) (provider.runSession world).1 := by
  obtain ⟨asked, proceeds, prospects, ran⟩ := provider.runSession_asks world
  rw [logIn, Act.mapFault_apply, ran]
  cases initiated (consult (.get provider.initiationUrl) world.replies).1 with
  | error fault =>
      obtain ⟨events, trace, deeds⟩ := proceeds.trace
      exact ⟨events, trace, deeds ▸ .uninitiated fault _⟩
  | ok given =>
      obtain ⟨launched, opens, visited⟩ := provider.visit_opens given asked
      obtain ⟨events, trace, deeds⟩ := (proceeds.trans opens).trace
      have sight : (takeVisit asked).1.opening = (takeVisit world).1.opening :=
        congrArg Prospects.opening prospects
      rw [sight] at visited
      dsimp only
      rw [visited]
      cases unopened : (takeVisit world).1.opening.fault? given.loginUrl with
      | none =>
          obtain ⟨later, trace', rounds⟩ := provider.pollForToken_deeds given.session launched
          refine ⟨events ++ later, ?_, ?_⟩
          · exact trace'.trans (by rw [trace, List.append_assoc])
          · rw [Opening.opened_of_fault? unopened, outline_append, deeds]
            rcases rounds with ⟨count, rounds⟩ | ⟨endless, waited, overflow⟩
            · rw [rounds]
              exact .polled given count _
            · rw [waited]
              dsimp only
              rw [overflow]
              exact .endless given endless
      | some fault => exact ⟨events, trace, deeds ▸ .unopened given unopened⟩

/-! ## Calls -/

/-- A call that finds nothing is a login. -/
theorem getToken_of_logIn {login : Login}
    (missed : login.credentials.usable? login.world.clock buffer = none) :
    (provider.getToken login).1 = (provider.logIn login.world).1 ∧
      (provider.getToken login).2.world = (provider.logIn login.world).2 := by
  have called := @Provider.getToken_of_flow (.delegated provider) login missed
  rcases ran : provider.logIn login.world with ⟨fault | token, after⟩
  · have flown : provider.flow (login.setLocked true) =
        (.error fault, { login.setLocked true with world := after }) :=
      Act.bind_of_error (Login.inWorld_of ran)
    rw [Provider.flow, flown] at called
    exact ⟨called.1, called.2.1⟩
  · have flown : provider.flow (login.setLocked true) =
        (.ok ⟨token, none⟩, { login.setLocked true with world := after }) :=
      Act.bind_of_ok (Login.inWorld_of ran)
    rw [Provider.flow, flown] at called
    exact ⟨called.1, called.2.1⟩

/-- The page that is polled is named by the base address and the session, whatever text that
is. -/
theorem sessionUrl_eq (session : String) :
    ∃ segment, provider.sessionUrl session =
        provider.baseUrl ++ "/oauth/token/" ++ String.ofList segment ∧
      Text.Percent.IsSegment segment ∧ '/' ∉ segment ∧
      String.ofList (Text.Percent.decode segment) = session := by
  have segment := Text.Percent.isSegment_encode session.toList
  refine ⟨_, rfl, segment, segment.notMem (.inl rfl), ?_⟩
  rw [Text.Percent.decode_encode, String.ofList_toList]

/-- A call that finds nothing asks for an initiation, with one client.  Only a final status
200 with an initiation in it is visited, at the page that it names; and only when that was
opened, the session is polled for, at one page, round by round.  That page is named by the
base address and one segment, from which any session can be taken back.  An interval beyond
all doubles is waited for once, which ends the call. -/
theorem getToken_shape (provider : DelegatedProvider) (login : Login)
    (missed : ∀ credential, login.credentials.token = some credential →
      credential.isExpired login.world.clock (Binary64.exactly 0) = true) :
    (∃ events, (provider.getToken login).2.world.trace = login.world.trace ++ events ∧
      ((∀ response given,
          (consult (.get (provider.baseUrl ++ "/oauth/initiate")) login.world.replies).1 =
            .ok (.ok response) → response.status = 200 →
          Initiation.ofBody response.body ≠ .ok given) →
        outline events =
          [.client (.create none (!provider.disableVerification)),
            .request (.get (provider.baseUrl ++ "/oauth/initiate"))]) ∧
      ∀ response given,
        (consult (.get (provider.baseUrl ++ "/oauth/initiate")) login.world.replies).1 =
          .ok (.ok response) → response.status = 200 →
        Initiation.ofBody response.body = .ok given →
        ∃ polls, outline events =
            [.client (.create none (!provider.disableVerification)),
              .request (.get (provider.baseUrl ++ "/oauth/initiate")),
              .browser given.loginUrl] ++ polls ∧
          ((takeVisit login.world).1.opening ≠ .opened → polls = []) ∧
          ((∃ count, polls = (List.replicate count [.sleep provider.pollInterval,
              .request (.get (provider.sessionUrl given.session))]).flatten) ∨
            provider.pollInterval.elapsed? = none ∧ polls = [.sleep provider.pollInterval] ∧
              (provider.getToken login).1 = .error .overflow)) ∧
    ∀ session, ∃ segment, provider.sessionUrl session =
        provider.baseUrl ++ "/oauth/token/" ++ String.ofList segment ∧
      Text.Percent.IsSegment segment ∧ '/' ∉ segment ∧
      String.ofList (Text.Percent.decode segment) = session := by
  refine ⟨?_, provider.sessionUrl_eq⟩
  obtain ⟨result, world⟩ := provider.getToken_of_logIn (Credentials.usable?_eq_none_iff.mpr missed)
  have retold : (provider.logIn login.world).1 =
      (provider.runSession login.world).1.mapError told := rfl
  rw [result, world, retold]
  obtain ⟨events, trace, deeds⟩ := provider.logIn_deeds login.world
  refine ⟨events, trace, fun uninitiated => ?_, fun response given answer fine read => ?_⟩
  all_goals
    generalize outline events = done at deeds ⊢
    generalize (provider.runSession login.world).1 = result at deeds ⊢
  · cases found : initiated (consult (.get provider.initiationUrl) login.world.replies).1 with
    | ok given =>
        obtain ⟨response, answer, fine, read⟩ := initiated_eq_ok_iff.mp found
        exact absurd read (uninitiated response given answer fine)
    | error fault =>
        rw [found] at deeds
        generalize (takeVisit login.world).1.opening = opening at deeds
        cases deeds
        rfl
  · have found : initiated (consult (.get provider.initiationUrl) login.world.replies).1 =
        .ok given := initiated_eq_ok_iff.mpr ⟨response, answer, fine, read⟩
    rw [found] at deeds
    generalize (takeVisit login.world).1.opening = opening at deeds ⊢
    cases deeds with
    | unopened given unopened => exact ⟨[], rfl, fun _ => rfl, .inl ⟨0, rfl⟩⟩
    | polled given count result =>
        exact ⟨_, rfl, fun unopened => absurd rfl unopened, .inl ⟨count, rfl⟩⟩
    | endless given endless =>
        exact ⟨_, rfl, fun unopened => absurd rfl unopened, .inr ⟨endless, rfl, rfl⟩⟩

/-- A service that is asked every two seconds, for ten seconds. -/
def service : DelegatedProvider :=
  ⟨"https://auth.example", false, .whole 2, .whole 10⟩

/-- A first call.  The session has a name that must be escaped, and its report is not there
at once. -/
def firstSession : Login where
  credentials := .empty
  world := { World.quiet (.exactly 1000) (.ofOctets []) with
    replies := [
      .response ⟨200, [], Text.Utf8.encode
        "\x7b\"session_uuid\": \"a/ü\", \"auth_url\": \"https://idp.example/\"\x7d".toList, none⟩,
      .response ⟨503, [], [], none⟩,
      .response ⟨200, [], Text.Utf8.encode
        "\x7b\"status\": \"complete\", \"token\": \"t\"\x7d".toList, none⟩] }

/-- What the first call is told first. -/
theorem initiated_firstSession :
    (initiated (consult (.get service.initiationUrl) firstSession.world.replies).1).toOption.map
        (fun given => (given.session, given.loginUrl)) =
      some ("a/ü", "https://idp.example/") := by
  decide +kernel

/-- The first call polls at the address of its session, and nowhere else. -/
theorem firstSession_shape :
    ∃ polls, outline (service.getToken firstSession).2.world.trace =
        service.greeting ++ [.browser "https://idp.example/"] ++ polls ∧
      ∃ count, polls = (List.replicate count [.sleep (.whole 2),
        .request (.get "https://auth.example/oauth/token/a%2F%C3%BC")]).flatten := by
  obtain ⟨⟨events, trace, -, visited⟩, -⟩ := getToken_shape service firstSession nofun
  have named := initiated_firstSession
  cases found : initiated (consult (.get service.initiationUrl) firstSession.world.replies).1 with
  | error fault =>
      rw [found] at named
      cases named
  | ok given =>
      rw [found] at named
      obtain ⟨session, page⟩ := Prod.mk.inj (Option.some.inj named)
      obtain ⟨response, answer, fine, read⟩ := initiated_eq_ok_iff.mp found
      obtain ⟨polls, deeds, -, rounds | ⟨endless, -⟩⟩ := visited response given answer fine read
      · have traced : (service.getToken firstSession).2.world.trace = events := trace
        have url : service.sessionUrl given.session =
            "https://auth.example/oauth/token/a%2F%C3%BC" := by
          have named : service.sessionUrl "a/ü" =
              "https://auth.example/oauth/token/a%2F%C3%BC" := by decide +kernel
          rwa [← session] at named
        rw [page] at deeds
        rw [url] at rounds
        rw [traced]
        exact ⟨polls, deeds, rounds⟩
      · have passes : service.pollInterval.elapsed?.isSome = true := by decide +kernel
        rw [endless] at passes
        cases passes

/-- The same service, asked at an interval beyond all doubles. -/
def endlessService : DelegatedProvider :=
  { service with pollInterval := .whole (Int.pow 10 400) }

/-- Its call waits, and does not ask. -/
theorem endless_wait_dangles :
    outline (endlessService.getToken firstSession).2.world.trace =
        endlessService.greeting ++ [.browser "https://idp.example/"]
          ++ [.sleep endlessService.pollInterval] ∧
      ∀ url count, outline (endlessService.getToken firstSession).2.world.trace ≠
        endlessService.greeting ++ [.browser "https://idp.example/"]
          ++ (List.replicate count
            [.sleep endlessService.pollInterval, .request (.get url)]).flatten := by
  have dangles : outline (endlessService.getToken firstSession).2.world.trace =
      endlessService.greeting ++ [.browser "https://idp.example/"]
        ++ [.sleep endlessService.pollInterval] := by decide +kernel
  refine ⟨dangles, fun url count rounds => ?_⟩
  -- rounds are even in number, and this is one event
  have length := congrArg List.length (dangles.symm.trans rounds)
  simp only [List.length_append, List.length_flatten, List.map_replicate, List.length_cons,
    List.length_nil, List.sum_replicate_nat] at length
  omega

end DelegatedProvider

end TokenFlow
