/-
# TokenFlow.Proofs.StoppedRequests -- where a request stops without an answer

A transport failure is an answer of the network.  A fault is none: the address is one that
nothing can be sent to, or one of the responses on the way to the answer could not be taken in
(`Http.Response.Stops`).  That may be the response of the address itself or of one that it
redirects to, so the responses are those of the world and the locations those that they lead
to (`Leads`).
-/
import TokenFlow.World.Network

namespace TokenFlow

set_option autoImplicit false

open TokenFlow.Url

/-! ## Addresses -/

/-- An address that a request can be sent to. -/
def Url.IsRequestable (url : String) : Prop :=
  ∃ location, Location.requested url = .ok location

instance (url : String) : Decidable (Url.IsRequestable url) :=
  match read : Location.requested url with
  | .ok location => isTrue ⟨location, read⟩
  | .error _ => isFalse fun requestable => nomatch read.symm.trans requestable.choose_spec

/-! ## Responses -/

/-- A response from a location cannot be taken in. -/
inductive Http.Response.Stops (response : Http.Response) (location : Location) : Fault → Prop
  /-- Its headers are not ASCII. -/
  | headers (unwritable : response.isWritable = false) : Stops response location .notAscii
  /-- Nothing tells the kind of the address that it comes from. -/
  | kindless {text : String} (kindless : location.kindlessText? = some text) :
      Stops response location (.kindless text)
  /-- It redirects to an address that can be read, and that nothing can be sent to. -/
  | redirect {target : String} {next : Location} {cause : LocationError}
      (redirects : response.redirect? = some target)
      (read : Location.read target.toList = .ok next)
      (lost : location.redirect next = .error cause) :
      Stops response location (World.faultOf cause)

/-- The locations that an address leads to with these replies. -/
inductive Leads (replies : List Http.Reply) (url : String) : Location → Prop
  | requested {location : Location} (requested : Location.requested url = .ok location) :
      Leads replies url location
  | redirect {location next later : Location} {response : Http.Response} {target : String}
      (leads : Leads replies url location) (replied : .response response ∈ replies)
      (redirects : response.redirect? = some target)
      (read : Location.read target.toList = .ok next)
      (led : location.redirect next = .ok later) : Leads replies url later

theorem Leads.mono {replies more : List Http.Reply} {url : String} {location : Location}
    (leads : Leads replies url location) (among : replies ⊆ more) : Leads more url location := by
  induction leads with
  | requested requested => exact .requested requested
  | redirect leads replied redirects read led ih =>
      exact ih.redirect (among replied) redirects read led

namespace World

/-! ## Hops -/

theorem redirect?_of_plain {response plain : Http.Response} (h : response.plain = .ok plain) :
    plain.redirect? = response.redirect? := by
  unfold Http.Response.plain at h
  cases body : Compressed.Coding.decodeAll response.codings response.body with
  | error flaw =>
      rw [body] at h
      cases h
  | ok body' =>
      rw [body] at h
      cases h
      rfl

/-- A response that is no end leads to where it redirects, or stops the request. -/
theorem Hop.ofResponse_cases (method : Http.Method) (location : Location)
    (response : Http.Response) :
    (∃ final, Hop.ofResponse method location response = .final final) ∨
      (∃ detail, Hop.ofResponse method location response = .failed detail) ∨
      (∃ method' target next later, response.redirect? = some target ∧
        Location.read target.toList = .ok next ∧ location.redirect next = .ok later ∧
        Hop.ofResponse method location response = .moved method' later) ∨
      ∃ fault, response.Stops location fault ∧
        Hop.ofResponse method location response = .stopped fault := by
  unfold Hop.ofResponse
  split
  · rename_i unwritable
    exact .inr (.inr (.inr ⟨_, .headers (by simpa using unwritable), rfl⟩))
  · split
    · exact .inr (.inl ⟨_, rfl⟩)
    · rename_i plain decoded
      have same := redirect?_of_plain decoded
      unfold Hop.ofPlain
      split
      · rename_i text kindless
        exact .inr (.inr (.inr ⟨_, .kindless kindless, rfl⟩))
      · exact .inl ⟨_, rfl⟩
      · rename_i target _ redirects
        rw [same] at redirects
        split
        · exact .inr (.inl ⟨_, rfl⟩)
        · rename_i next read
          split
          · rename_i cause lost
            exact .inr (.inr (.inr ⟨_, .redirect redirects read lost, rfl⟩))
          · rename_i later led
            exact .inr (.inr (.inl ⟨_, target, next, later, redirects, read, led, rfl⟩))

theorem takeReply_subset (world : World) : (takeReply world).2.replies ⊆ world.replies := by
  unfold takeReply
  split
  · exact fun _ found => found
  · rename_i reply rest replies
    rw [replies]
    exact fun _ found => List.mem_cons_of_mem _ found

theorem hop_subset (method : Http.Method) (location : Location) (world : World) :
    (hop method location world).2.replies ⊆ world.replies := by
  have left := takeReply_subset world
  unfold hop
  split
  · rename_i detail after took
    rwa [took] at left
  · rename_i response after took
    rwa [took] at left

/-- A hop that does not fail goes by one of the replies. -/
theorem hop_cases (method : Http.Method) (location : Location) (world : World) :
    (∃ detail, (hop method location world).1 = .failed detail) ∨
      ∃ response, .response response ∈ world.replies ∧
        (hop method location world).1 = Hop.ofResponse method location response := by
  unfold hop takeReply
  cases replies : world.replies with
  | nil => exact .inl ⟨_, rfl⟩
  | cons reply rest =>
      cases reply with
      | failure detail => exact .inl ⟨_, rfl⟩
      | response response => exact .inr ⟨response, List.mem_cons_self, rfl⟩

variable {method method' : Http.Method} {location later : Location} {world : World}
  {fault : Fault}

theorem hop_of_moved (moved : (hop method location world).1 = .moved method' later) :
    ∃ response target next, .response response ∈ world.replies ∧
      response.redirect? = some target ∧ Location.read target.toList = .ok next ∧
      location.redirect next = .ok later := by
  rcases hop_cases method location world with ⟨_, failed⟩ | ⟨response, replied, hopped⟩
  · rw [failed] at moved
    cases moved
  · rw [hopped] at moved
    rcases Hop.ofResponse_cases method location response with
      ⟨_, is⟩ | ⟨_, is⟩ | ⟨_, target, next, later', redirects, read, led, is⟩ | ⟨_, -, is⟩ <;>
      rw [is] at moved <;> cases moved
    exact ⟨response, target, next, replied, redirects, read, led⟩

theorem hop_of_stopped (stopped : (hop method location world).1 = .stopped fault) :
    ∃ response, .response response ∈ world.replies ∧ response.Stops location fault := by
  rcases hop_cases method location world with ⟨_, failed⟩ | ⟨response, replied, hopped⟩
  · rw [failed] at stopped
    cases stopped
  · rw [hopped] at stopped
    rcases Hop.ofResponse_cases method location response with
      ⟨_, is⟩ | ⟨_, is⟩ | ⟨_, _, _, _, -, -, -, is⟩ | ⟨_, stops, is⟩ <;>
      rw [is] at stopped <;> cases stopped
    exact ⟨response, replied, stops⟩

/-! ## Requests -/

theorem follow_subset (method : Http.Method) (location : Location) (hops : Nat) (world : World) :
    (follow method location hops world).2.replies ⊆ world.replies := by
  induction hops generalizing method location world with
  | zero =>
      have left := hop_subset method location world
      rw [follow]
      split <;> rename_i hopped <;> rwa [hopped] at left
  | succ hops ih =>
      have left := hop_subset method location world
      rw [follow]
      split <;> rename_i hopped <;> rw [hopped] at left
      · exact left
      · exact left
      · rename_i method' later after
        have followed := ih method' later (after.record (.redirect method' later.toText))
        exact fun _ found => left (followed found)
      · exact left

theorem fetch_subset (request : Http.Request) (world : World) :
    (fetch request world).2.replies ⊆ world.replies := by
  unfold fetch
  split
  · exact fun _ found => found
  · exact follow_subset _ _ _ _

variable {replies : List Http.Reply} {url : String}

/-- Of the replies there were, one stopped the request, at a location that it led to. -/
theorem follow_of_fault {hops : Nat} (leads : Leads replies url location)
    (left : world.replies ⊆ replies) (h : (follow method location hops world).1 = .error fault) :
    ∃ location response, Leads replies url location ∧ .response response ∈ replies ∧
      response.Stops location fault := by
  induction hops generalizing method location world with
  | zero =>
      rw [follow] at h
      split at h
      · cases h
      · cases h
      · cases h
      · rename_i hopped
        cases h
        obtain ⟨response, replied, stops⟩ := hop_of_stopped (congrArg Prod.fst hopped)
        exact ⟨location, response, leads, left replied, stops⟩
  | succ hops ih =>
      have rest := hop_subset method location world
      rw [follow] at h
      split at h
      · cases h
      · cases h
      · rename_i hopped
        obtain ⟨response, target, next, replied, redirects, read, led⟩ :=
          hop_of_moved (congrArg Prod.fst hopped)
        rw [hopped] at rest
        refine ih (leads.redirect (left replied) redirects read led) ?_ h
        exact fun _ found => left (rest found)
      · rename_i hopped
        cases h
        obtain ⟨response, replied, stops⟩ := hop_of_stopped (congrArg Prod.fst hopped)
        exact ⟨location, response, leads, left replied, stops⟩

/-- What stops a request: its own address, or a response on the way. -/
def Stopped (replies : List Http.Reply) (url : String) (fault : Fault) : Prop :=
  (∃ cause, Location.requested url = .error cause ∧ fault = faultOf cause) ∨
    ∃ location response, Leads replies url location ∧ .response response ∈ replies ∧
      response.Stops location fault

theorem fetch_of_fault {request : Http.Request} (h : (fetch request world).1 = .error fault) :
    Stopped world.replies request.url fault := by
  unfold fetch at h
  split at h
  · rename_i cause unsendable
    cases h
    exact .inl ⟨cause, unsendable, rfl⟩
  · rename_i location requested
    have same : (world.record (.request request)).replies ⊆ world.replies :=
      fun _ found => found
    exact .inr (follow_of_fault (.requested requested) same h)

/-- What stops a request among these replies stops it among more of them. -/
theorem Stopped.mono (stopped : Stopped replies url fault) {more : List Http.Reply}
    (among : replies ⊆ more) : Stopped more url fault := by
  rcases stopped with unsendable | ⟨location, response, leads, replied, stops⟩
  · exact .inl unsendable
  · exact .inr ⟨location, response, leads.mono among, among replied, stops⟩

end World

end TokenFlow
