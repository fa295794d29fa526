/-
# TokenFlow.Proofs.Requests -- what a request leaves behind

Sending a request and following redirects uses up replies and writes to the trace: the
request itself, and one event for each redirect that was followed.  Nothing else of the
world is touched, whatever the network gives (`fetch_frame`).  A token request is a new
client and one such request (`requestGrant_frame`).
-/
import TokenFlow.Proofs.Actions
import TokenFlow.Provider.TokenRequest

namespace TokenFlow

set_option autoImplicit false

/-- What is sent to the network. -/
def Event.request? : Event → Option Http.Request
  | .request sent => some sent
  | _ => none

theorem Event.eq_of_request? {event : Event} {sent : Http.Request}
    (h : event.request? = some sent) : event = .request sent := by
  cases event with
  | request request => rw [← Option.some.inj h]
  | client | redirect | browser | listen | callback | close | sleep => cases h

/-- A redirect of the network, which was followed. -/
def Event.IsRedirect (event : Event) : Prop :=
  ∃ method url, event = .redirect method url

theorem Event.IsRedirect.request? {event : Event} (redirect : event.IsRedirect) :
    event.request? = none := by
  obtain ⟨method, url, rfl⟩ := redirect
  rfl

namespace World

/-! ## One request -/

theorem takeReply_frame (world : World) :
    ∃ replies, (takeReply world).2 = { world with replies } := by
  unfold takeReply
  split
  · exact ⟨world.replies, rfl⟩
  · exact ⟨_, rfl⟩

theorem hop_frame (method : Http.Method) (location : Url.Location) (world : World) :
    ∃ replies, (hop method location world).2 = { world with replies } := by
  obtain ⟨replies, taken⟩ := takeReply_frame world
  refine ⟨replies, ?_⟩
  unfold hop
  split
  · rename_i detail next took
    rwa [took] at taken
  · rename_i response next took
    rwa [took] at taken

/-! ## Redirects -/

theorem follow_frame (method : Http.Method) (location : Url.Location) (hops : Nat)
    (world : World) :
    ∃ replies redirects, (∀ event ∈ redirects, Event.IsRedirect event) ∧
      (follow method location hops world).2 =
        { world with replies, trace := world.trace ++ redirects } := by
  induction hops generalizing method location world with
  | zero =>
      obtain ⟨replies, hopped⟩ := hop_frame method location world
      refine ⟨replies, [], List.forall_mem_nil _, ?_⟩
      rw [follow, List.append_nil]
      split <;> rename_i next hop <;> rwa [hop] at hopped
  | succ hops ih =>
      obtain ⟨replies, hopped⟩ := hop_frame method location world
      -- only a redirect goes on; every other reply is the last one
      have last {next : World} (hopped : next = { world with replies }) :
          ∃ replies redirects, (∀ event ∈ redirects, Event.IsRedirect event) ∧
            next = { world with replies, trace := world.trace ++ redirects } :=
        ⟨replies, [], List.forall_mem_nil _, by rw [hopped, List.append_nil]⟩
      rw [follow]
      split <;> rename_i next hop <;> rw [hop] at hopped
      · exact last hopped
      · exact last hopped
      · rename_i method location
        have moved : next = { world with replies } := hopped
        obtain ⟨replies', redirects, only, followed⟩ :=
          ih method location (next.record (.redirect method location.toText))
        refine ⟨replies', .redirect method location.toText :: redirects, ?_, ?_⟩
        · exact List.forall_mem_cons.mpr ⟨⟨_, _, rfl⟩, only⟩
        · rw [followed, moved]
          simp [record]
      · exact last hopped

/-- A request is on the trace, followed by the redirects that it led to. -/
theorem fetch_frame (request : Http.Request) (world : World) :
    ∃ replies redirects, (∀ event ∈ redirects, Event.IsRedirect event) ∧
      (fetch request world).2 =
        { world with replies, trace := world.trace ++ .request request :: redirects } := by
  unfold fetch
  split
  · exact ⟨world.replies, [], List.forall_mem_nil _, rfl⟩
  · rename_i location requested
    obtain ⟨replies, redirects, only, followed⟩ :=
      follow_frame request.method location Http.maxRedirects (world.record (.request request))
    refine ⟨replies, redirects, only, ?_⟩
    rw [followed]
    simp [record]

end World

/-! ## Token requests -/

namespace Provider

open TokenFlow.Document

/-- What a token request writes to the trace before any redirect. -/
def tokenEvents (endpoint : String) (form : Http.Form) : List Event :=
  [.client (.create none true), .request (.post endpoint form tokenHeaders)]

/-- Sends a form to a token endpoint, with a client of its own. -/
def submit (endpoint : String) (form : Http.Form) : WorldAct (Except String Http.Response) := do
  World.newClient (.create none true)
  World.fetch (.post endpoint form tokenHeaders)

/-- What a token request comes to with this answer of the network. -/
def conclude (step : GrantStep) (endpoint : String) :
    Except Fault (Except String Http.Response) → Except Fault Grant
  | .error fault => .error fault
  | .ok (.error detail) => .error (.failure (.token (.unreachable step endpoint detail)))
  | .ok (.ok response) => grantOf step response

theorem submit_apply (endpoint : String) (form : Http.Form) (world : World) :
    submit endpoint form world =
      World.fetch (.post endpoint form tokenHeaders)
        (world.record (.client (.create none true))) :=
  rfl

/-- A grant, or the lack of one, is a matter of the answer: what is sent is sent before. -/
theorem requestGrant_eq (step : GrantStep) (endpoint : String) (form : Http.Form)
    (world : World) :
    requestGrant step endpoint form world =
      (conclude step endpoint (submit endpoint form world).1,
        (submit endpoint form world).2) := by
  simp only [requestGrant, submit_apply, Act.bind_apply, World.newClient, World.emit,
    Act.update_apply]
  rcases World.fetch (.post endpoint form tokenHeaders)
    (world.record (.client (.create none true))) with ⟨fault | detail | response, after⟩
  · rfl
  · rfl
  · rfl

theorem submit_frame (endpoint : String) (form : Http.Form) (world : World) :
    ∃ replies redirects, (∀ event ∈ redirects, Event.IsRedirect event) ∧
      (submit endpoint form world).2 =
        { world with
          replies
          trace := world.trace ++ (tokenEvents endpoint form ++ redirects) } := by
  obtain ⟨replies, redirects, only, fetched⟩ := World.fetch_frame
    (.post endpoint form tokenHeaders) (world.record (.client (.create none true)))
  refine ⟨replies, redirects, only, ?_⟩
  rw [submit_apply, fetched]
  simp [World.record, tokenEvents]

theorem requestGrant_frame (step : GrantStep) (endpoint : String) (form : Http.Form)
    (world : World) :
    ∃ replies redirects, (∀ event ∈ redirects, Event.IsRedirect event) ∧
      (requestGrant step endpoint form world).2 =
        { world with
          replies
          trace := world.trace ++ (tokenEvents endpoint form ++ redirects) } := by
  rw [requestGrant_eq]
  exact submit_frame endpoint form world

end Provider

end TokenFlow
