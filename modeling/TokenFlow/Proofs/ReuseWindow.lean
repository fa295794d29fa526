/-
# TokenFlow.Proofs.ReuseWindow -- until when a token is used

A token ends when its lifetime has passed since the call that obtained it was over, and not
since the call was made: the user may take a while to log in (`token_of_obtainsFor`), as the
one of `minuteLogIn` does.  From then on it stays where it is until another one is obtained,
whatever calls are made (`found_of_alone`).  Each of them uses it exactly as long as it lasts
for another thirty seconds.
-/
import TokenFlow.Proofs.AnnouncedLifetime
import TokenFlow.Proofs.KeptSession
import TokenFlow.Proofs.Obtained

namespace TokenFlow

set_option autoImplicit false

open TokenFlow.Number TokenFlow.Document

/-! ## Calls at whole seconds -/

/-- With a whole lifetime and clock, a credential ends at a whole second. -/
theorem Credential.ofGrant_exactly {grant : Grant} {start : Int}
    (few : grant.lifetime.natAbs ≤ 2 ^ 53) (small : (start + grant.lifetime).natAbs ≤ 2 ^ 53) :
    Credential.ofGrant grant (.exactly start) =
      .ok ⟨grant.bearer, some (.real (.exactly (start + grant.lifetime)))⟩ := by
  have moment := Binary64.add_exactly small
  unfold Credential.ofGrant
  split
  · rename_i seconds same
    obtain rfl := Option.some.inj ((Binary64.ofInt?_of_small few).symm.trans same)
    rw [moment]
  · rename_i none
    cases none.symm.trans (Binary64.ofInt?_of_small few)

namespace Call

variable {call : Call} {provider : CodeProvider} {value : String}

theorem Reused.silent (reused : call.Reused value) :
    call.result = .ok value ∧ call.after.world.trace = call.agent.world.trace :=
  ⟨congrArg Prod.fst reused, congrArg (fun ended => ended.2.world.trace) reused⟩

/-- It obtained the value from a response that announces the lifetime, and was over at a
whole second. -/
structure ObtainsFor (call : Call) (value : String) (lifetime start : Int) : Prop where
  code : ∃ provider, call.provider = .code provider
  came : call.result = .ok value
  answered : ∃ earlier last response fields, call.asked = earlier ++ [last] ∧
    last.answer = .ok (.ok response) ∧
    Json.Value.ofOctets? response.body = some (.object fields) ∧
    Announces (fields.lookup "expires_in") lifetime
  ended : call.after.world.clock = .exactly start
  small : (start + lifetime).natAbs ≤ 2 ^ 53

/-- Such a call leaves a token that ends the lifetime after it. -/
theorem token_of_obtainsFor {lifetime start : Int}
    (obtained : call.ObtainsFor value lifetime start) :
    call.left.token = some ⟨value, some (.real (.exactly (start + lifetime)))⟩ := by
  obtain ⟨⟨provider, kind⟩, came, answered, ended, small⟩ := obtained
  obtain ⟨earlier, last, response, fields, split, answer, object, announced⟩ := answered
  cases look : call.found.usable? call.agent.world.clock call.provider.buffer with
  | some usable =>
      rw [asked_of_usable look] at split
      simp at split
  | none =>
      obtain ⟨credential, token, shown, earlier', last', grant, asks, granted, given⟩ :=
        obtains_of_missed kind look came
      have both : earlier ++ [last] = earlier' ++ [last'] := split.symm.trans asks.asked_eq
      obtain ⟨-, rfl⟩ : earlier = earlier' ∧ last = last' := by simpa using both
      obtain ⟨response', answer', -, read⟩ := Enquiry.grant?_eq_some_iff.mp granted
      obtain rfl : response = response' := by simpa using answer.symm.trans answer'
      have lifetimes := Grant.lifetime_of_announces object read announced
      obtain ⟨positive, few⟩ := announced.small
      have few : lifetime.natAbs ≤ 2 ^ 53 := by omega
      rw [ended, Credential.ofGrant_exactly (by rwa [lifetimes]) (by rwa [lifetimes]),
        lifetimes] at given
      have same := Except.ok.inj given
      rw [token, ← shown, ← same]

/-- It is made at a whole second, and half a minute more can still be counted exactly. -/
def At (call : Call) (now : Int) : Prop :=
  call.agent.world.clock = .exactly now ∧ (now + 30).natAbs ≤ 2 ^ 53

/-- Whether a token lasts for a call is a matter of whole numbers. -/
theorem isExpired_at {now ending : Int} (kind : call.provider = .code provider)
    (moment : call.At now) :
    (⟨value, some (.real (.exactly ending))⟩ : Credential).isExpired call.agent.world.clock
      call.provider.buffer = decide (ending ≤ now + 30) := by
  obtain ⟨clock, small⟩ := moment
  have sum : (Binary64.exactly now).add CodeProvider.buffer = .exactly (now + 30) :=
    Binary64.add_exactly small
  rw [clock, kind]
  show (Binary64.exactly ending).le ((Binary64.exactly now).add CodeProvider.buffer) = _
  rw [sum, Binary64.le_exactly]

theorem lastsFor_at {now ending : Int} (kind : call.provider = .code provider)
    (moment : call.At now) :
    Credential.LastsFor ⟨value, some (.real (.exactly ending))⟩ call ↔ now + 30 < ending := by
  rw [Credential.LastsFor, isExpired_at kind moment, decide_eq_false_iff_not, Int.not_le]

end Call

/-! ## Calls in a row -/

namespace History

/-- Only clients have such a key. -/
theorem code_of_slot {member other : Member} {provider : CodeProvider}
    (same : other.slot = member.slot) (code : member.account.provider = .code provider) :
    ∃ provider, other.account.provider = .code provider := by
  have key : other.account.provider.cacheKey = member.account.provider.cacheKey :=
    congrArg Slot.key same
  rw [code] at key
  cases kind : other.account.provider with
  | code provider => exact ⟨provider, rfl⟩
  | delegated provider =>
      rw [kind] at key
      exact absurd key.symm (codeKey_ne_delegatedKey _ _ _)

variable {world : World} {deeds later : List Deed} {obtaining again : Deed} {call next : Call}
  {value : String} {lifetime start now : Int}

/-- The token is found as it was left.  Only calls behind its window could obtain another one,
so it is enough that these do not. -/
theorem found_of_alone (made : (run world deeds).call? obtaining = some call)
    (obtained : call.ObtainsFor value lifetime start)
    (kept : .clear call.member.cache ∉ deeds ++ obtaining :: later)
    (alone : ∀ between ∈ (run world (deeds ++ [obtaining])).callsFor call.member.slot later,
      between.Obtains → ∃ moment, between.At moment ∧ moment + 30 < start + lifetime)
    (called : (run world (deeds ++ obtaining :: later)).call? again = some next)
    (same : next.member.slot = call.member.slot) :
    next.found.token = some ⟨value, some (.real (.exactly (start + lifetime)))⟩ := by
  have regrouped : deeds ++ obtaining :: later = (deeds ++ [obtaining]) ++ later := by simp
  rw [regrouped] at kept called
  obtain ⟨provider, code⟩ := obtained.code
  obtain ⟨built, read, -⟩ :=
    kept_after_call made fun found => kept (List.mem_append_left later found)
  obtain ⟨-, built', vault⟩ := perform_of_call? called
  have token := call.token_of_obtainsFor obtained
  rw [Call.found, vault]
  refine found_of_keeping kept built (read ▸ token) (fun between here found => ?_) built' same
  obtain ⟨other, kind⟩ := code_of_slot (of_decide_eq_true (List.mem_filter.mp here).2) code
  by_cases obtains : between.Obtains
  · -- in the window a call uses the token, so it cannot have obtained another one
    obtain ⟨moment, timed, inside⟩ := alone between here obtains
    rw [Call.left_of_lasts found ((Call.lastsFor_at kind timed).mpr inside), found]
  · rw [Call.token_of_unobtained kind obtains, found]

/-- A call obtains a token at a whole second, and the answer announces a lifetime.  Until
another token is obtained, a later call for the key uses this one and does nothing exactly
as long as it lasts for another thirty seconds, counted from the end of the call that
obtained it.  The first call after that tries the refresh token or logs in: those before it
need not be asked about, as they obtain nothing.  A token that lasts for thirty seconds at
most is never used again, unless the clock goes back. -/
theorem reuse_window (world : World) (deeds later : List Deed)
    (made : (run world deeds).call? obtaining = some call)
    (obtained : call.ObtainsFor value lifetime start)
    (kept : .clear call.member.cache ∉ deeds ++ obtaining :: later)
    (alone : ∀ between ∈ (run world (deeds ++ [obtaining])).callsFor call.member.slot later,
      between.Obtains → ∃ moment, between.At moment ∧ moment + 30 < start + lifetime)
    (called : (run world (deeds ++ obtaining :: later)).call? again = some next)
    (same : next.member.slot = call.member.slot) (moment : next.At now) :
    (now + 30 < start + lifetime → next.Reused value) ∧
      (start + lifetime ≤ now + 30 → next.Acquires) ∧
      (next.result = .ok value ∧ next.after.world.trace = next.agent.world.trace ↔
        now + 30 < start + lifetime) ∧
      (lifetime ≤ 30 → start ≤ now → next.Acquires ∧ ¬ next.Reused value) := by
  have found := found_of_alone made obtained kept alone called same
  obtain ⟨provider, code⟩ := obtained.code
  obtain ⟨other, kind⟩ := code_of_slot same code
  have reused (inside : now + 30 < start + lifetime) : next.Reused value :=
    Call.getToken_of_lasts found ((Call.lastsFor_at kind moment).mpr inside)
  have missed (late : start + lifetime ≤ now + 30) :
      next.found.usable? next.agent.world.clock next.provider.buffer = none := by
    rw [Credentials.usable?_eq_none_iff]
    intro credential token
    obtain rfl := Option.some.inj (found.symm.trans token)
    rw [Call.isExpired_at kind moment]
    exact decide_eq_true late
  have window : next.result = .ok value ∧ next.after.world.trace = next.agent.world.trace ↔
      now + 30 < start + lifetime := by
    constructor
    · rintro ⟨came, trace⟩
      by_contra late
      exact Call.trace_ne_of_missed kind (missed (Int.not_lt.mp late)) came trace
    · exact fun inside => (reused inside).silent
  have acquires (late : start + lifetime ≤ now + 30) : next.Acquires :=
    Call.acquires_of_missed kind (missed late)
  refine ⟨reused, acquires, window, fun short onward => ?_⟩
  have late : start + lifetime ≤ now + 30 := by omega
  refine ⟨acquires late, fun did => ?_⟩
  have inside := window.mp did.silent
  omega

/-- The text of the lifetime in a body, if it is one. -/
def announcedText? (body : List UInt8) : Option String :=
  match Json.Value.ofOctets? body with
  | some (.object fields) =>
      match fields.lookup "expires_in" with
      | some (.string text) => some text
      | _ => none
  | _ => none

/-- A grant for a minute, in which the number is dressed up. -/
def minuteBody : List UInt8 :=
  Text.Utf8.encode "\x7b\"access_token\": \"t\", \"expires_in\": \" +0_060.0 \"\x7d".toList

theorem announces_minuteBody :
    ∃ fields, Json.Value.ofOctets? minuteBody = some (.object fields) ∧
      Announces (fields.lookup "expires_in") 60 := by
  have text : announcedText? minuteBody = some " +0_060.0 " := by decide +kernel
  have shape : " +0_060.0 ".toList =
      [' '] ++ (['+'] ++ ['0', '_', '0', '6', '0'] ++ ['.', '0']) ++ [' '] := by decide +kernel
  have numeral : WholeNumber.IsNumeral " +0_060.0 ".toList 60 := by
    have grouped : WholeNumber.Grouped ['0', '_', '0', '6', '0'] ['0', '0', '6', '0'] :=
      .apart rfl (.next rfl (.next rfl (.one rfl)))
    have blank : ∀ c ∈ [' '] ++ [' '], Text.isBlank c = true := by simp [Text.isBlank]
    rw [shape]
    exact .mk blank .plus grouped (.zeros (List.cons_ne_nil _ _) (by simp))
  unfold announcedText? at text
  split at text
  · rename_i fields object
    refine ⟨fields, object, ?_⟩
    split at text
    · rename_i content field
      rw [field, Option.some.inj text]
      exact .positive (.text numeral) (by decide) (by decide)
    · cases text
  · cases text

def clientBuilt : List Deed := [.build "main" (.code .client)]

/-- A login whose user comes back with the code after twenty seconds. -/
def minuteLogIn : Deed :=
  .getToken 0 { World.quiet (.exactly 0) (.ofOctets []) with
    replies := [.response ⟨200, [], minuteBody, none⟩]
    visits := [⟨.opened, fun _ => [], fun _ => [⟨.exactly 20, Callback.Request.get
      ("/callback?code=c&state=" ++ String.ofList (List.replicate 43 'A'))⟩]⟩] }

def askAt (now : Int) : Deed := .getToken 0 (.quiet (.exactly now) (.ofOctets []))

def bodyOf (entry : Enquiry) : Option (List UInt8) :=
  match entry.answer with
  | .ok (.ok response) => some response.body
  | _ => none

theorem exists_answer_of_bodyOf {entry : Enquiry} {body : List UInt8}
    (received : bodyOf entry = some body) :
    ∃ response, entry.answer = .ok (.ok response) ∧ response.body = body := by
  unfold bodyOf at received
  split at received
  · rename_i response answer
    exact ⟨response, answer, Option.some.inj received⟩
  · cases received

theorem obtainsFor_minute :
    ∃ call, (run beforehand clientBuilt).call? minuteLogIn = some call ∧
      call.member.slot = clientSlot ∧ call.ObtainsFor "t" 60 20 := by
  have logIn : ((run beforehand clientBuilt).call? minuteLogIn).map
      (fun call => (call.member.slot, call.result.toOption, call.after.world.clock)) =
      some (clientSlot, some "t", .exactly 20) := by
    decide +kernel
  have answers : ((run beforehand clientBuilt).call? minuteLogIn).map
      (fun call => (call.provider, call.asked.map bodyOf)) =
      some (.code .client, [some minuteBody]) := by
    decide +kernel
  obtain ⟨call, made, came⟩ := Option.map_eq_some_iff.mp logIn
  simp only [made, Option.map_some, Option.some.injEq, Prod.mk.injEq] at answers came
  obtain ⟨slot, value, clock⟩ := came
  obtain ⟨code, bodies⟩ := answers
  obtain ⟨last, rest, asked, received, none⟩ := List.map_eq_cons_iff.mp bodies
  obtain ⟨response, answer, body⟩ := exists_answer_of_bodyOf received
  obtain ⟨fields, object, announced⟩ := announces_minuteBody
  rw [List.map_eq_nil_iff.mp none] at asked
  exact ⟨call, made, slot, ⟨_, code⟩, Call.result_of_toOption value,
    ⟨[], last, response, fields, asked, answer, by rw [body, object], announced⟩, clock, by decide⟩

/-- A token for a minute is used for the last time twenty-nine seconds after the login that
took twenty. -/
theorem reuse_window_of_minute :
    ∃ call reused late,
      (run beforehand clientBuilt).call? minuteLogIn = some call ∧ call.ObtainsFor "t" 60 20 ∧
      (run beforehand (clientBuilt ++ [minuteLogIn])).call? (askAt 49) = some reused ∧
        reused.Reused "t" ∧
      (run beforehand (clientBuilt ++ [minuteLogIn, askAt 49])).call? (askAt 50) = some late ∧
        late.Acquires := by
  obtain ⟨call, made, slot, obtained⟩ := obtainsFor_minute
  have early : ((run beforehand (clientBuilt ++ [minuteLogIn])).call? (askAt 49)).map
      (fun next => (next.member.slot, next.agent.world.clock)) =
      some (clientSlot, .exactly 49) := by
    decide +kernel
  have between : ((run beforehand (clientBuilt ++ [minuteLogIn])).callsFor clientSlot
      [askAt 49]).map (·.agent.world.clock) = [.exactly 49] := by
    decide +kernel
  have late : ((run beforehand (clientBuilt ++ [minuteLogIn, askAt 49])).call? (askAt 50)).map
      (fun next => (next.member.slot, next.agent.world.clock)) =
      some (clientSlot, .exactly 50) := by
    decide +kernel
  obtain ⟨reused, asked, same⟩ := Option.map_eq_some_iff.mp early
  obtain ⟨slot', clock⟩ := Prod.mk.inj same
  obtain ⟨last, asked', same'⟩ := Option.map_eq_some_iff.mp late
  obtain ⟨slot'', clock'⟩ := Prod.mk.inj same'
  have alone : ∀ one ∈ (run beforehand (clientBuilt ++ [minuteLogIn])).callsFor clientSlot
      [askAt 49], one.Obtains → ∃ moment, one.At moment ∧ moment + 30 < 20 + 60 := by
    intro one found _
    have timed : one.agent.world.clock ∈ [Binary64.exactly 49] := by
      rw [← between]
      exact List.mem_map_of_mem found
    exact ⟨49, ⟨List.mem_singleton.mp timed, by decide⟩, by decide⟩
  rw [← slot] at alone
  have inside := reuse_window beforehand clientBuilt [] made obtained
    (by simp [clientBuilt, minuteLogIn]) (by simp [callsFor, History.calls]) asked
    (slot'.trans slot.symm) ⟨clock, by decide⟩
  have behind := reuse_window beforehand clientBuilt [askAt 49] made obtained
    (by simp [clientBuilt, minuteLogIn, askAt]) alone asked' (slot''.trans slot.symm)
    ⟨clock', by decide⟩
  exact ⟨call, reused, last, made, obtained, asked, inside.1 (by decide), asked',
    behind.2.1 (by decide)⟩

end History

end TokenFlow
