/-
# TokenFlow.Proofs.PollingRounds -- asking for a session, round by round

A round is one wait and one request, whatever comes of it (`Rounds`).  Polling goes on as
long as the deadline has not come and no answer decided anything: it ends with the first
answer that does, or with the first round that would begin too late (`poll_ends`).  What an
answer decides is a matter of the answer alone (`Decides`, `Undecided`), and the answers
are a matter of the replies that were there at first (`World.answerAt`).
-/
import Mathlib.Logic.Function.Iterate
import TokenFlow.Proofs.Accounted
import TokenFlow.Proofs.Outline

namespace TokenFlow

set_option autoImplicit false

open TokenFlow.Number TokenFlow.Document

theorem nonempty?_eq_none_iff {text : Option String} :
    nonempty? text = none ↔ text = none ∨ text = some "" := by
  cases text <;> simp [nonempty?]

/-! ## Asking again and again -/

namespace World

/-- The replies that are left when a request was sent a number of times. -/
def remaining (request : Http.Request) : Nat → List Http.Reply → List Http.Reply
  | 0, replies => replies
  | count + 1, replies => remaining request count (consult request replies).2

/-- What the network makes of a request that was sent so many times before. -/
def answerAt (request : Http.Request) (count : Nat) (replies : List Http.Reply) :
    Except Fault (Except String Http.Response) :=
  (consult request (remaining request count replies)).1

end World

open World

namespace DelegatedProvider

variable {provider : DelegatedProvider} {url : String} {seconds interval deadline : Binary64}
  {answer : Except Fault (Except String Http.Response)} {result : Except Fault String}

/-! ## Answers to a poll -/

/-- An answer that ends polling, and how: nobody was reached; the report cannot be read; it
brings a token, or should have; or it brings an error.  A fault ends everything. -/
inductive Decides : Except Fault (Except String Http.Response) → Except Fault String → Prop
  | stopped (fault : Fault) : Decides (.error fault) (.error fault)
  | unreachable (detail : String) :
      Decides (.ok (.error detail)) (.error (.failure (.delegationUnreachable detail)))
  | invalid {response : Http.Response} {issues : List Issue} (fine : response.status = 200)
      (read : SessionReport.ofBody response.body = .error issues) :
      Decides (.ok (.ok response)) (.error (.failure (.reportInvalid issues)))
  | complete {response : Http.Response} {report : SessionReport} {token : String}
      (fine : response.status = 200) (read : SessionReport.ofBody response.body = .ok report)
      (complete : report.status = "complete") (given : report.token = some token)
      (full : token ≠ "") : Decides (.ok (.ok response)) (.ok token)
  | tokenless {response : Http.Response} {report : SessionReport}
      (fine : response.status = 200) (read : SessionReport.ofBody response.body = .ok report)
      (complete : report.status = "complete")
      (missing : report.token = none ∨ report.token = some "") :
      Decides (.ok (.ok response)) (.error (.failure (.token .sessionWithoutToken)))
  | failed {response : Http.Response} {report : SessionReport} (fine : response.status = 200)
      (read : SessionReport.ofBody response.body = .ok report)
      (failed : report.status = "error") :
      Decides (.ok (.ok response)) (.error (.failure (.interaction (.sessionFailed report.error))))

/-- Any other answer: another status than 200, or a report of any other status. -/
def Undecided (answer : Except Fault (Except String Http.Response)) : Prop :=
  ∃ response, answer = .ok (.ok response) ∧
    (response.status ≠ 200 ∨
      ∃ report, SessionReport.ofBody response.body = .ok report ∧
        report.status ≠ "complete" ∧ report.status ≠ "error")

/-- What a round comes to with this answer. -/
def reading : Except Fault (Except String Http.Response) → Except Fault (Option String)
  | .error fault => .error fault
  | .ok (.error detail) => .error (.failure (.delegationUnreachable detail))
  | .ok (.ok response) => (answerOf response).mapError .failure

theorem Decides.reading_eq (decides : Decides answer result) :
    reading answer = result.map some := by
  cases decides with
  | stopped fault => rfl
  | unreachable detail => rfl
  | invalid fine read =>
      simp only [reading, answerOf, fine, read, if_true]
      rfl
  | complete fine read complete given full =>
      have shown := nonempty?_eq_some_iff.mpr ⟨given, full⟩
      simp only [reading, answerOf, fine, read, tokenOf, complete, shown, if_true]
      rfl
  | tokenless fine read complete missing =>
      have none := nonempty?_eq_none_iff.mpr missing
      simp only [reading, answerOf, fine, read, tokenOf, complete, none, if_true]
      rfl
  | failed fine read failed =>
      have other : ¬ "error" = "complete" := by decide
      simp only [reading, answerOf, fine, read, tokenOf, failed, if_true, if_neg other]
      rfl

theorem Undecided.reading_eq (undecided : Undecided answer) : reading answer = .ok none := by
  obtain ⟨response, rfl, passing | ⟨report, read, incomplete, fine⟩⟩ := undecided
  · simp only [reading, answerOf, if_neg passing]
    rfl
  · simp only [reading, answerOf, read, tokenOf, if_neg incomplete, if_neg fine]
    split <;> rfl

/-- An answer decides in one way at most, -/
theorem Decides.unique {other : Except Fault String} (decides : Decides answer result)
    (decides' : Decides answer other) : result = other := by
  have same : result.map some = other.map some :=
    decides.reading_eq.symm.trans decides'.reading_eq
  cases result <;> cases other <;> cases same <;> rfl

/-- There are no other answers. -/
theorem decides_or_undecided (answer : Except Fault (Except String Http.Response)) :
    (∃ result, Decides answer result) ∨ Undecided answer := by
  match answer with
  | .error fault => exact .inl ⟨_, .stopped fault⟩
  | .ok (.error detail) => exact .inl ⟨_, .unreachable detail⟩
  | .ok (.ok response) =>
      by_cases fine : response.status = 200
      · cases read : SessionReport.ofBody response.body with
        | error issues => exact .inl ⟨_, .invalid fine read⟩
        | ok report =>
            by_cases complete : report.status = "complete"
            · cases given : nonempty? report.token with
              | some token =>
                  obtain ⟨given, full⟩ := nonempty?_eq_some_iff.mp given
                  exact .inl ⟨_, .complete fine read complete given full⟩
              | none =>
                  exact .inl ⟨_, .tokenless fine read complete (nonempty?_eq_none_iff.mp given)⟩
            · by_cases failed : report.status = "error"
              · exact .inl ⟨_, .failed fine read failed⟩
              · exact .inr ⟨response, rfl, .inr ⟨report, read, complete, failed⟩⟩
      · exact .inr ⟨response, rfl, .inl fine⟩

theorem Decides.of_reading (h : reading answer = result.map some) : Decides answer result := by
  rcases decides_or_undecided answer with ⟨other, decides⟩ | undecided
  · have same : result.map some = other.map some := h.symm.trans decides.reading_eq
    cases result <;> cases other <;> cases same <;> exact decides
  · have same : result.map some = .ok none := h.symm.trans undecided.reading_eq
    cases result <;> cases same

theorem Undecided.of_reading (h : reading answer = .ok none) : Undecided answer := by
  refine (decides_or_undecided answer).resolve_left fun ⟨result, decides⟩ => ?_
  have same : result.map some = .ok none := decides.reading_eq.symm.trans h
  cases result <;> cases same

/-! ## Rounds -/

/-- What a number of rounds do: each waits for an interval and then asks. -/
def rounds (provider : DelegatedProvider) (url : String) (count : Nat) : List Event :=
  (List.replicate count [.sleep provider.pollInterval, .request (.get url)]).flatten

/-- What time it is when an interval has passed so often. -/
def clockAfter (interval : Binary64) (count : Nat) (clock : Binary64) : Binary64 :=
  (fun clock => clock.add interval)^[count] clock

/-- So many rounds lie between these worlds, and each took this time and one answer. -/
structure Rounds (provider : DelegatedProvider) (url : String) (interval : Binary64)
    (count : Nat) (before after : World) : Prop where
  trace : ∃ events, after.trace = before.trace ++ events ∧
    outline events = provider.rounds url count
  clock : after.clock = clockAfter interval count before.clock
  replies : after.replies = remaining (.get url) count before.replies

namespace Rounds

variable {count : Nat} {before middle after world : World}

theorem zero (world : World) : provider.Rounds url interval 0 world world :=
  ⟨⟨[], (List.append_nil _).symm, rfl⟩, rfl, rfl⟩

/-- One round, and the rounds after it. -/
theorem succ (first : provider.Rounds url interval 1 before middle)
    (rest : provider.Rounds url interval count middle after) :
    provider.Rounds url interval (count + 1) before after where
  trace := outline_trans first.trace rest.trace
  clock := by
    rw [rest.clock, first.clock]
    rfl
  replies := by
    rw [rest.replies, first.replies]
    rfl

end Rounds

theorem noteDisturbance_frame (response : Http.Response) (world : World) :
    ∃ log, noteDisturbance response world = { world with log } := by
  unfold noteDisturbance
  split
  · exact ⟨world.log, rfl⟩
  · exact ⟨_, rfl⟩

/-- What is asked is what is read, and only the log is written to. -/
theorem pollOnce_of_slept {world waited : World}
    (slept : World.sleep provider.pollInterval world = (.ok (), waited)) (url : String) :
    ∃ log, provider.pollOnce url world =
      (reading (World.fetch (.get url) waited).1,
        { (World.fetch (.get url) waited).2 with log }) := by
  rw [pollOnce, Act.bind_of_ok slept]
  rcases fetched : World.fetch (.get url) waited with ⟨fault | detail | response, next⟩
  · have asked : ask url waited = (.error fault, next) := Act.bind_of_error fetched
    exact ⟨next.log, Act.bind_of_error asked⟩
  · have asked : ask url waited = (.error (.failure (.delegationUnreachable detail)), next) :=
      Act.bind_of_ok fetched
    exact ⟨next.log, Act.bind_of_error asked⟩
  · have asked : ask url waited = (.ok response, next) := Act.bind_of_ok fetched
    obtain ⟨log, noted⟩ := noteDisturbance_frame response next
    refine ⟨log, ?_⟩
    rw [Act.bind_of_ok asked, Act.bind_of_ok (Act.update_apply _ _), noted, reading]
    cases answerOf response <;> rfl

/-- A round whose interval can pass comes to what its answer is read as. -/
theorem pollOnce_round (passes : provider.pollInterval.elapsed? = some interval) (url : String)
    (world : World) :
    (provider.pollOnce url world).1 = reading (answerAt (.get url) 0 world.replies) ∧
      provider.Rounds url interval 1 world (provider.pollOnce url world).2 := by
  let waited := (world.record (.sleep provider.pollInterval)).pass interval
  have slept : World.sleep provider.pollInterval world = (.ok (), waited) := by
    simp [World.sleep, World.emit, Act.bind_apply, World.elapse, passes, waited]
  obtain ⟨replies, redirects, only, after⟩ := World.fetch_frame (.get url) waited
  obtain ⟨answered, left⟩ := World.fetch_eq_consult (.get url) waited
  obtain ⟨log, round⟩ := pollOnce_of_slept slept url
  rw [after] at left round
  rw [round]
  refine ⟨congrArg reading answered, ?_, rfl, left⟩
  refine ⟨[.sleep provider.pollInterval, .request (.get url)] ++ redirects, ?_, ?_⟩
  · simp [waited, World.record, World.pass]
  · rw [outline_append, outline_redirects only]
    rfl

/-! ## Polling -/

/-- Whether a round begins after so many others: the deadline has not come. -/
def early (interval deadline clock : Binary64) (count : Nat) : Prop :=
  (clockAfter interval count clock).lt deadline = true

/-- How polling ends after a number of rounds: the last answer decides, or it is too late
for another round.  No answer before decided anything. -/
inductive Ends (url : String) (seconds interval deadline clock : Binary64)
    (replies : List Http.Reply) : Nat → Except Fault String → Prop
  | decided {count : Nat} {result : Except Fault String}
      (before : ∀ earlier < count, Undecided (answerAt (.get url) earlier replies))
      (last : Decides (answerAt (.get url) count replies) result) :
      Ends url seconds interval deadline clock replies (count + 1) result
  | late {count : Nat}
      (before : ∀ earlier < count, Undecided (answerAt (.get url) earlier replies))
      (late : ¬ early interval deadline clock count) :
      Ends url seconds interval deadline clock replies count
        (.error (.failure (.timeout (.polling seconds))))

/-- A first answer that decides nothing does not change how polling ends. -/
theorem Ends.succ {clock : Binary64} {replies : List Http.Reply} {count : Nat}
    (ends : Ends url seconds interval deadline (clock.add interval)
      (consult (.get url) replies).2 count result)
    (first : Undecided (answerAt (.get url) 0 replies)) :
    Ends url seconds interval deadline clock replies (count + 1) result := by
  have before {count : Nat} (later : ∀ earlier < count,
      Undecided (answerAt (.get url) earlier (consult (.get url) replies).2)) :
      ∀ earlier < count + 1, Undecided (answerAt (.get url) earlier replies) := by
    intro earlier less
    cases earlier with
    | zero => exact first
    | succ earlier => exact later earlier (Nat.lt_of_succ_lt_succ less)
  cases ends with
  | decided later last => exact .decided (before later) last
  | late later late => exact .late (before later) late

/-- Polling is a number of rounds, each of them begun before the deadline.  The induction is
on the replies that are left, as in `poll` itself. -/
theorem poll_ends (passes : provider.pollInterval.elapsed? = some interval) (url : String)
    (seconds deadline : Binary64) (world : World) :
    ∃ count, provider.Rounds url interval count world
        (provider.poll url seconds deadline world).2 ∧
      (∀ round < count, early interval deadline world.clock round) ∧
      Ends url seconds interval deadline world.clock world.replies count
        (provider.poll url seconds deadline world).1 := by
  -- a round that decides is the only one
  have once (result : Except Fault String) {world : World}
      (timely : world.clock.lt deadline = true)
      (round : (provider.pollOnce url world).1 = result.map some) :
      provider.Rounds url interval 1 world (provider.pollOnce url world).2 ∧
        (∀ round < 1, early interval deadline world.clock round) ∧
        Ends url seconds interval deadline world.clock world.replies 1 result := by
    obtain ⟨read, rounds⟩ := provider.pollOnce_round passes url world
    refine ⟨rounds, fun round first => ?_, ?_⟩
    · obtain rfl := Nat.lt_one_iff.mp first
      exact timely
    · exact .decided (fun earlier none => absurd none (Nat.not_lt_zero _))
        (.of_reading (read.symm.trans round))
  induction world using DelegatedProvider.poll.induct provider url deadline with
  | case1 world timely token after round =>
      rw [provider.poll_of_early timely, round]
      have ended := once (.ok token) timely (congrArg Prod.fst round)
      rw [round] at ended
      exact ⟨1, ended⟩
  | case2 world timely after round ih =>
      obtain ⟨count, rounds, begun, ends⟩ := ih
      obtain ⟨read, first⟩ := provider.pollOnce_round passes url world
      rw [round] at read first
      have undecided := Undecided.of_reading read.symm
      rw [first.clock] at begun ends
      rw [first.replies] at ends
      rw [provider.poll_of_early timely, round]
      refine ⟨count + 1, first.succ rounds, fun round less => ?_, ends.succ undecided⟩
      cases round with
      | zero => exact timely
      | succ round => exact begun round (Nat.lt_of_succ_lt_succ less)
  | case3 world timely fault after round =>
      rw [provider.poll_of_early timely, round]
      have ended := once (.error fault) timely (congrArg Prod.fst round)
      rw [round] at ended
      exact ⟨1, ended⟩
  | case4 world late =>
      rw [poll, if_neg late]
      exact ⟨0, .zero world, fun round none => absurd none (Nat.not_lt_zero _),
        .late (fun earlier none => absurd none (Nat.not_lt_zero _)) late⟩

end DelegatedProvider

end TokenFlow
