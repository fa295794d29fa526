/-
# TokenFlow.Proofs.Correspondence -- what the network made of every request

A trace says what was asked, and not what came of it.  But requests use up the replies of
the network in order, and what a request comes to depends on these alone
(`fetch_congr`), so the replies that were there at first and the trace tell the answer to
every request: these are the `enquiries` of the trace.

A stretch of a login `Asks` the enquiries that it adds, and stretches that follow one
another ask the one after the other (`Asks.trans`).  They are a function of the worlds
before and after it (`Asks.asked_eq`).
-/
import TokenFlow.Proofs.Requests
import TokenFlow.Proofs.StoppedRequests

namespace TokenFlow

set_option autoImplicit false

/-- A request, and what the network made of it. -/
structure Enquiry where
  request : Http.Request
  answer : Except Fault (Except String Http.Response)

namespace World

/-! ## Answers -/

theorem hop_congr {world other : World} (same : world.replies = other.replies)
    (method : Http.Method) (location : Url.Location) :
    (hop method location world).1 = (hop method location other).1 ∧
      (hop method location world).2.replies = (hop method location other).2.replies := by
  unfold hop takeReply
  rw [same]
  cases replies : other.replies with
  | nil => exact ⟨rfl, same.trans replies |>.trans replies.symm⟩
  | cons reply rest => cases reply <;> exact ⟨rfl, rfl⟩

theorem follow_congr {world other : World} (same : world.replies = other.replies)
    (method : Http.Method) (location : Url.Location) (hops : Nat) :
    (follow method location hops world).1 = (follow method location hops other).1 ∧
      (follow method location hops world).2.replies =
        (follow method location hops other).2.replies := by
  induction hops generalizing method location world other with
  | zero =>
      obtain ⟨led, left⟩ := hop_congr same method location
      rw [follow, follow]
      rcases one : hop method location world with ⟨first, after⟩
      rcases two : hop method location other with ⟨second, after'⟩
      rw [one, two] at led left
      obtain rfl : first = second := led
      cases first <;> exact ⟨rfl, left⟩
  | succ hops ih =>
      obtain ⟨led, left⟩ := hop_congr same method location
      rw [follow, follow]
      rcases one : hop method location world with ⟨first, after⟩
      rcases two : hop method location other with ⟨second, after'⟩
      rw [one, two] at led left
      obtain rfl : first = second := led
      cases first with
      | moved method location =>
          have recorded (event : Event) :
              (after.record event).replies = (after'.record event).replies := left
          exact ih (recorded _) method location
      | final response => exact ⟨rfl, left⟩
      | failed detail => exact ⟨rfl, left⟩
      | stopped fault => exact ⟨rfl, left⟩

/-- What a request comes to depends on the replies of the network alone. -/
theorem fetch_congr {world other : World} (same : world.replies = other.replies)
    (request : Http.Request) :
    (fetch request world).1 = (fetch request other).1 ∧
      (fetch request world).2.replies = (fetch request other).2.replies := by
  unfold fetch
  split
  · exact ⟨rfl, same⟩
  · rename_i location requested
    have recorded : (world.record (.request request)).replies =
        (other.record (.request request)).replies := same
    exact follow_congr recorded request.method location Http.maxRedirects

/-- A world in which there is nothing but replies. -/
def ofReplies (replies : List Http.Reply) : World :=
  { quiet (.exactly 0) (.ofOctets []) with replies }

/-- What the network makes of a request, and the replies that it leaves. -/
def consult (request : Http.Request) (replies : List Http.Reply) :
    Except Fault (Except String Http.Response) × List Http.Reply :=
  let (answer, world) := fetch request (ofReplies replies)
  (answer, world.replies)

theorem fetch_eq_consult (request : Http.Request) (world : World) :
    (fetch request world).1 = (consult request world.replies).1 ∧
      (fetch request world).2.replies = (consult request world.replies).2 := by
  have same : world.replies = (ofReplies world.replies).replies := rfl
  exact fetch_congr same request

/-! ## Enquiries -/

/-- The requests of a trace, with what the network made of them out of these replies. -/
def enquiries (replies : List Http.Reply) : List Event → List Enquiry
  | [] => []
  | event :: events =>
      match event.request? with
      | some request =>
          ⟨request, (consult request replies).1⟩
            :: enquiries (consult request replies).2 events
      | none => enquiries replies events

/-- The replies that the requests of a trace leave of these. -/
def unused (replies : List Http.Reply) : List Event → List Http.Reply
  | [] => replies
  | event :: events =>
      match event.request? with
      | some request => unused (consult request replies).2 events
      | none => unused replies events

theorem enquiries_append (replies : List Http.Reply) (first later : List Event) :
    enquiries replies (first ++ later) =
      enquiries replies first ++ enquiries (unused replies first) later := by
  induction first generalizing replies with
  | nil => rfl
  | cons event first ih =>
      simp only [List.cons_append, enquiries, unused]
      cases event.request? with
      | some request => simp only [ih, List.cons_append]
      | none => simp only [ih]

theorem unused_append (replies : List Http.Reply) (first later : List Event) :
    unused replies (first ++ later) = unused (unused replies first) later := by
  induction first generalizing replies with
  | nil => rfl
  | cons event first ih =>
      simp only [List.cons_append, unused]
      cases event.request? with
      | some request => simp only [ih]
      | none => simp only [ih]

/-- Every request is an enquiry, in order. -/
theorem map_request_enquiries (replies : List Http.Reply) (events : List Event) :
    (enquiries replies events).map Enquiry.request = events.filterMap Event.request? := by
  induction events generalizing replies with
  | nil => rfl
  | cons event events ih =>
      rw [enquiries, List.filterMap_cons]
      cases event.request? with
      | some request => simp only [List.map_cons, ih]
      | none => exact ih replies

/-- Events that ask nothing tell nothing, and leave the replies. -/
theorem enquiries_silent (replies : List Http.Reply) {events : List Event}
    (silent : ∀ event ∈ events, event.request? = none) :
    enquiries replies events = [] ∧ unused replies events = replies := by
  induction events with
  | nil => exact ⟨rfl, rfl⟩
  | cons event events ih =>
      rw [List.forall_mem_cons] at silent
      simp only [enquiries, unused, silent.1]
      exact ih silent.2

/-- The enquiries between two worlds. -/
def asked (before after : World) : List Enquiry :=
  enquiries before.replies (after.trace.drop before.trace.length)

/-- Between the two worlds these enquiries were made, and nothing else took replies. -/
structure Asks (before after : World) (entries : List Enquiry) : Prop where
  told : ∃ events, after.trace = before.trace ++ events ∧
    enquiries before.replies events = entries ∧ unused before.replies events = after.replies

namespace Asks

variable {before middle after world : World} {entries first later : List Enquiry}

theorem asked_eq (asks : before.Asks after entries) : before.asked after = entries := by
  obtain ⟨events, trace, enquired, -⟩ := asks.told
  rw [asked, trace, List.drop_left, enquired]

/-- An enquiry is a request of the trace. -/
theorem request_mem (asks : before.Asks after entries) {events : List Event}
    (trace : after.trace = before.trace ++ events) {entry : Enquiry} (found : entry ∈ entries) :
    ∃ event ∈ events, event.request? = some entry.request := by
  obtain ⟨events', trace', enquired, -⟩ := asks.told
  obtain rfl : events' = events := List.append_cancel_left (trace'.symm.trans trace)
  have mapped : entry.request ∈ entries.map Enquiry.request := List.mem_map_of_mem found
  rw [← enquired, map_request_enquiries] at mapped
  exact List.mem_filterMap.mp mapped

/-- What asks nothing: events of other kinds, and the replies stay. -/
theorem of_silent {events : List Event} (trace : after.trace = before.trace ++ events)
    (silent : ∀ event ∈ events, event.request? = none)
    (replies : after.replies = before.replies) : before.Asks after [] := by
  obtain ⟨none, all⟩ := enquiries_silent before.replies silent
  exact ⟨events, trace, none, all.trans replies.symm⟩

theorem of_eq (trace : after.trace = before.trace) (replies : after.replies = before.replies) :
    before.Asks after [] :=
  of_silent (trace.trans (List.append_nil _).symm) (List.forall_mem_nil _) replies

theorem refl (world : World) : world.Asks world [] :=
  of_eq rfl rfl

theorem trans (one : before.Asks middle first) (two : middle.Asks after later) :
    before.Asks after (first ++ later) := by
  obtain ⟨events, trace, enquired, left⟩ := one.told
  obtain ⟨events', trace', enquired', left'⟩ := two.told
  refine ⟨events ++ events', ?_, ?_, ?_⟩
  · rw [trace', trace, List.append_assoc]
  · rw [enquiries_append, enquired, left, enquired']
  · rw [unused_append, left, left']

/-- What comes first and asks nothing does not count, -/
theorem trans_left (one : before.Asks middle []) (two : middle.Asks after entries) :
    before.Asks after entries :=
  one.trans two

/-- and neither does what comes last. -/
theorem trans_right (one : before.Asks middle entries) (two : middle.Asks after []) :
    before.Asks after entries := by
  have both := one.trans two
  rwa [List.append_nil] at both

end Asks

/-- A request is one enquiry, redirects or not. -/
theorem fetch_asks (request : Http.Request) (world : World) :
    world.Asks (fetch request world).2 [⟨request, (fetch request world).1⟩] := by
  obtain ⟨replies, redirects, only, after⟩ := fetch_frame request world
  have silent : ∀ event ∈ redirects, event.request? = none :=
    fun event found => (only event found).request?
  have trace : (fetch request world).2.trace = world.trace ++ .request request :: redirects := by
    rw [after]
  obtain ⟨answered, left⟩ := fetch_eq_consult request world
  obtain ⟨none, all⟩ := enquiries_silent (consult request world.replies).2 silent
  refine ⟨.request request :: redirects, trace, ?_, ?_⟩
  · simp only [enquiries, Event.request?, none, answered]
  · simp only [unused, Event.request?, all, left]

theorem record_asks (world : World) {event : Event} (silent : event.request? = none) :
    world.Asks (world.record event) [] :=
  .of_silent rfl (List.forall_mem_singleton.mpr silent) rfl

end World

/-! ## Faults of the network -/

/-- What the network may raise: an address that nothing can be sent to, or an answer that
cannot be taken in. -/
def Fault.IsOfNetwork : Fault → Prop
  | .unrequestable | .hostName _ | .notAscii | .address _ | .kindless _ => True
  | _ => False

namespace World

theorem isOfNetwork_faultOf (cause : Url.LocationError) : (faultOf cause).IsOfNetwork := by
  cases cause <;> exact trivial

theorem Stopped.isOfNetwork {replies : List Http.Reply} {url : String} {fault : Fault}
    (stopped : Stopped replies url fault) : fault.IsOfNetwork := by
  rcases stopped with ⟨cause, -, rfl⟩ | ⟨location, response, -, -, stops⟩
  · exact isOfNetwork_faultOf cause
  · cases stops with
    | headers => exact trivial
    | kindless => exact trivial
    | redirect => exact isOfNetwork_faultOf _

theorem isOfNetwork_of_fetch {request : Http.Request} {world : World} {fault : Fault}
    (h : (fetch request world).1 = .error fault) : fault.IsOfNetwork :=
  (fetch_of_fault h).isOfNetwork

/-- A request of a trace that has a fault for an answer was stopped. -/
theorem stopped_of_enquiries {replies : List Http.Reply} {events : List Event}
    {entry : Enquiry} {fault : Fault} (found : entry ∈ enquiries replies events)
    (answer : entry.answer = .error fault) : Stopped replies entry.request.url fault := by
  induction events generalizing replies with
  | nil => cases found
  | cons event events ih =>
      rw [enquiries] at found
      split at found
      · rename_i request asks
        rcases List.mem_cons.mp found with rfl | found
        · exact fetch_of_fault answer
        · exact (ih found).mono (fetch_subset request (ofReplies replies))
      · exact ih found

theorem Asks.stopped {before after : World} {entries : List Enquiry} {entry : Enquiry}
    {fault : Fault} (asks : before.Asks after entries) (found : entry ∈ entries)
    (answer : entry.answer = .error fault) :
    Stopped before.replies entry.request.url fault := by
  obtain ⟨events, -, enquired, -⟩ := asks.told
  rw [← enquired] at found
  exact stopped_of_enquiries found answer

/-- No other fault answers a request. -/
theorem Asks.isOfNetwork {before after : World} {entries : List Enquiry} {entry : Enquiry}
    {fault : Fault} (asks : before.Asks after entries) (found : entry ∈ entries)
    (answer : entry.answer = .error fault) : fault.IsOfNetwork :=
  (asks.stopped found answer).isOfNetwork

end World

end TokenFlow
