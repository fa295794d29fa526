/-
# TokenFlow.Proofs.Delivery -- what one request can do to a listener

Most requests ask nothing of a login: another method, another path, a line that
cannot be read.  `Request.redirect?` picks out those that do, by their octets alone,
and gives their parameters.  `receive_cases` is the whole effect of a request: it is
answered with a page and decides the login, or it gets no page and changes nothing
that a rival did not change.  `deliver_eq` says the same of the world around.
-/
import TokenFlow.World.Loopback

namespace TokenFlow

set_option autoImplicit false

namespace Callback

/-! ## Requests -/

namespace Request

/-- The words of the request line. -/
def lineWords (octets : List UInt8) : List (List Char) :=
  Text.words Text.isSeparator (Text.trimRight (fun c => c = '\r' ∨ c = '\n')
    (Text.Latin1.decode (splitLine octets).1))

/-- The first word of the request line. -/
def method? (octets : List UInt8) : Option (List Char) :=
  (lineWords octets).head?

/-- The version that a request speaks: a line of two words speaks HTTP/0.9. -/
def versionWord (octets : List UInt8) : List Char :=
  ((lineWords octets)[2]?).getD "HTTP/0.9".toList

/-- How a request is answered, when it is. -/
def framing? (octets : List UInt8) : Option Framing :=
  match read octets with
  | .silent => none
  | .rejected _ framing _ => some framing
  | .target _ framing _ => some framing

/-- The parameters of a redirect, when the request is one: a readable `GET` for the
callback path. -/
def redirect? (octets : List UInt8) : Option (List (String × String)) :=
  match read octets with
  | .target _ _ target =>
      match Url.split target with
      | .ok parts =>
          if parts.path = callbackPath.toList then some (Url.Query.decodePairs parts.query)
          else none
      | .error _ => none
  | _ => none

/-- A line with a target is a `GET` of two or three words, and its version decides how it is
answered. -/
theorem words_of_readWords {line line' target : String} {framing : Framing}
    {words : List (List Char)} {headers : List UInt8}
    (h : readWords line words headers = .target line' framing target) :
    words.head? = some "GET".toList ∧
      framing = framingOf ((words[2]?).getD "HTTP/0.9".toList) := by
  -- a target comes out of two places, each behind the test of the method
  match words with
  | [] => cases h
  | [_] => cases h
  | [method, target'] =>
      simp only [readWords] at h
      split at h
      · rename_i get
        split at h
        · cases h
        · obtain ⟨-, rfl, -⟩ := Reading.target.inj h
          exact ⟨congrArg some get, rfl⟩
      · cases h
  | method :: target' :: version :: more =>
      simp only [readWords] at h
      split at h
      · cases h
      · split at h
        · rename_i single
          obtain rfl : more = [] := List.length_eq_zero_iff.mp (Nat.succ.inj single)
          split at h
          · cases h
          · split at h
            · rename_i get
              obtain ⟨-, rfl, -⟩ := Reading.target.inj h
              exact ⟨congrArg some get, rfl⟩
            · cases h
        · cases h

theorem words_of_read {octets : List UInt8} {line target : String} {framing : Framing}
    (h : read octets = .target line framing target) :
    method? octets = some "GET".toList ∧ framing = framingOf (versionWord octets) := by
  simp only [read] at h
  split at h
  · cases h
  · exact words_of_readWords h

theorem framing?_of_read {octets : List UInt8} {line target : String} {framing : Framing}
    (h : read octets = .target line framing target) : framing? octets = some framing := by
  rw [framing?, h]

/-- A redirect is a `GET` for the callback path, with these parameters in its query. -/
theorem redirect?_eq_some_iff {octets : List UInt8} {parameters : List (String × String)} :
    redirect? octets = some parameters ↔
      ∃ line framing target parts, read octets = .target line framing target ∧
        Url.split target = .ok parts ∧ parts.path = callbackPath.toList ∧
        Url.Query.decodePairs parts.query = parameters := by
  unfold redirect?
  constructor
  · intro h
    split at h
    · rename_i line framing target hread
      split at h
      · rename_i parts hsplit
        split at h
        · rename_i path
          exact ⟨line, framing, target, parts, hread, hsplit, path, Option.some.inj h⟩
        · cases h
      · cases h
    · cases h
  · rintro ⟨line, framing, target, parts, hread, hsplit, path, rfl⟩
    simp only [hread, hsplit, path, if_true]

/-- A redirect is answered as its version has it. -/
theorem framing?_of_redirect {octets : List UInt8} {parameters : List (String × String)}
    (h : redirect? octets = some parameters) :
    framing? octets = some (framingOf (versionWord octets)) := by
  obtain ⟨line, framing, target, parts, hread, -, -, -⟩ := redirect?_eq_some_iff.mp h
  rw [framing?_of_read hread, (words_of_read hread).2]

end Request

/-! ## Answers -/

namespace Page

theorem status_ofOutcome (outcome : Outcome) :
    (Page.ofOutcome outcome).status = if outcome.success then 200 else 400 := by
  unfold Page.ofOutcome
  split <;> rfl

theorem status_ofOutcome_cases (outcome : Outcome) :
    (Page.ofOutcome outcome).status = 200 ∨ (Page.ofOutcome outcome).status = 400 := by
  rw [status_ofOutcome]
  split
  · exact .inl rfl
  · exact .inr rfl

end Page

namespace Answer

variable (version : List Char) (sent : Page)

theorem status?_page :
    (page (Request.framingOf version) sent).status? =
      if version = "HTTP/0.9".toList then none else some sent.status := by
  rw [Request.framingOf]
  split <;> rfl

theorem contentLength?_page :
    (page (Request.framingOf version) sent).contentLength? =
      if version = "HTTP/0.9".toList then none else some sent.contentLength := by
  rw [Request.framingOf]
  split <;> rfl

end Answer

/-! ## Listener -/

namespace Listener

variable (listener : Listener)

theorem resolve_of_some {recorded : Outcome} (h : listener.outcome = some recorded)
    (outcome : Outcome) : listener.resolve outcome = (false, listener) := by
  simp [resolve, h]

theorem resolve_of_none (h : listener.outcome = none) (outcome : Outcome) :
    listener.resolve outcome =
      (true, { listener with
        outcome := some outcome
        status := if outcome.errorKind = some .timeout then .timedOut else .completed
        done := true }) := by
  simp [resolve, h]

/-- The first outcome stays. -/
theorem outcome_resolve (outcome : Outcome) :
    (listener.resolve outcome).2.outcome = some (listener.outcome.getD outcome) := by
  cases h : listener.outcome with
  | some recorded => rw [resolve_of_some listener h, h, Option.getD_some]
  | none => rw [resolve_of_none listener h, Option.getD_none]

/-- A redirect that nothing was recorded before is a matter of its parameters. -/
theorem examine_of_redirect {request : List UInt8} {parameters : List (String × String)}
    (h : Request.redirect? request = some parameters) (open' : listener.outcome = none) :
    ∃ line framing, Request.framing? request = some framing ∧ listener.examine request =
      .redirect line framing (Outcome.judge parameters listener.expectedState) := by
  obtain ⟨line, framing, target, parts, hread, hsplit, path, rfl⟩ :=
    Request.redirect?_eq_some_iff.mp h
  refine ⟨line, framing, Request.framing?_of_read hread, ?_⟩
  simp [examine, hread, hsplit, path, open']

/-- Every other request is answered at once, and without a page. -/
theorem examine_of_not_redirect {request : List UInt8}
    (h : Request.redirect? request = none ∨ listener.outcome ≠ none) :
    ∃ answer notes, listener.examine request = .answer answer notes ∧
      answer.page? = none := by
  unfold examine
  split
  · exact ⟨_, _, rfl, rfl⟩
  · exact ⟨_, _, rfl, rfl⟩
  · rename_i line framing target hread
    split
    · exact ⟨_, _, rfl, rfl⟩
    · rename_i parts hsplit
      split
      · rename_i asked
        have redirect := Request.redirect?_eq_some_iff.mpr
          ⟨line, framing, target, parts, hread, hsplit, asked.1, rfl⟩
        rw [redirect] at h
        exact absurd (Option.isNone_iff_eq_none.mp asked.2) (h.resolve_left nofun)
      · exact ⟨_, _, rfl, rfl⟩

/-- A request either gets a page and decides the login, which needs a listener that
runs, that nothing was recorded on, and no rival; or it gets no page, and the
listener is as it was before, or as the rival left it. -/
theorem receive_cases (rival : Option Outcome) (request : List UInt8) :
    (∃ parameters framing, Request.redirect? request = some parameters ∧
        Request.framing? request = some framing ∧ listener.running = true ∧
        listener.outcome = none ∧ rival = none ∧
        (listener.receive rival request).1.1 =
          .page framing (Page.ofOutcome (Outcome.judge parameters listener.expectedState)) ∧
        (listener.receive rival request).2 =
          (listener.resolve (Outcome.judge parameters listener.expectedState)).2) ∨
      (listener.running = true → listener.outcome = none → rival = none →
          Request.redirect? request = none) ∧
        (listener.receive rival request).1.1.page? = none ∧
        ((listener.receive rival request).2 = listener ∨
          (listener.receive rival request).2 = listener.overtake rival) := by
  cases running : listener.running with
  | false =>
      right
      simp only [receive, running, Bool.false_eq_true, if_false, false_imp_iff, true_and]
      exact ⟨rfl, .inl trivial⟩
  | true =>
      by_cases asks : Request.redirect? request = none ∨ listener.outcome ≠ none
      · obtain ⟨answer, notes, examined, noPage⟩ := listener.examine_of_not_redirect asks
        right
        simp only [receive, running, if_true, examined]
        exact ⟨fun _ fresh _ => asks.resolve_right (not_not_intro fresh), noPage, .inl trivial⟩
      · rw [not_or, Decidable.not_not] at asks
        obtain ⟨parameters, redirect⟩ := Option.ne_none_iff_exists'.mp asks.1
        obtain ⟨line, framing, framed, examined⟩ := listener.examine_of_redirect redirect asks.2
        simp only [receive, running, if_true, examined]
        cases rival with
        | none =>
            left
            refine ⟨parameters, framing, redirect, framed, trivial, asks.2, rfl, ?_, ?_⟩ <;>
              simp [overtake, settle, resolve_of_none listener asks.2]
        | some first =>
            -- the rival was faster, so the redirect comes second
            right
            have taken : (listener.overtake (some first)).outcome = some first := by
              rw [overtake, outcome_resolve, asks.2, Option.getD_none]
            simp only [settle, resolve_of_some _ taken]
            exact ⟨nofun, rfl, .inr trivial⟩

end Listener

end Callback

/-! ## World -/

open Callback

/-- What a delivery leaves on the trace. -/
def Event.callback? : Event → Option (List UInt8 × Answer)
  | .callback octets answer => some (octets, answer)
  | _ => none

namespace World

theorem foldl_note (level : Level) (source : Source) (texts : List String) (world : World) :
    texts.foldl (fun world text => world.note level source text) world =
      { world with log := world.log ++ texts.map (⟨level, source, ·⟩) } := by
  induction texts generalizing world with
  | nil => simp
  | cons text texts ih =>
      rw [List.foldl_cons, ih]
      simp [note]

/-- A delivered request goes to the listener, onto the trace and into the log. -/
theorem deliver_eq {world : World} {listener : Listener} (h : world.listener = some listener)
    (rival : Option Outcome) (request : List UInt8) :
    ∃ log, deliver rival request world =
      ((listener.receive rival request).1.1,
        { world with
          listener := some (listener.receive rival request).2
          trace := world.trace ++ [.callback request (listener.receive rival request).1.1]
          log := world.log ++ log }) := by
  refine ⟨(listener.receive rival request).1.2.map (⟨.debug, .callback, ·⟩), ?_⟩
  simp only [deliver, h, foldl_note, record]

end World

end TokenFlow
