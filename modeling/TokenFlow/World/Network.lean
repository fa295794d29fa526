/-
# TokenFlow.World.Network -- sending a request and following redirects

A request takes one reply from the network, and one more for every redirect that
is followed, at most twenty.  What comes back is a final response or a transport
failure with its description.  An address that no request can go to is a fault,
for a request before any reply is taken, and for a redirect after the reply that
asks for it; so is an answer from an address whose kind nothing tells, or with
headers outside ASCII.  An answered request uses up at least one reply
(`fetch_replies_lt`), so no login can go on forever.
-/
import TokenFlow.Url.Location
import TokenFlow.World.Basic

namespace TokenFlow

set_option autoImplicit false

open TokenFlow.Url

namespace Http

/-- The most redirects that are followed. -/
def maxRedirects : Nat := 20

def tooManyRedirectsText : String := "Exceeded maximum allowed redirects."

/-- The statuses that redirect when they come with a location. -/
def isRedirect (status : Nat) : Bool :=
  [301, 302, 303, 307, 308].contains status

/-- The method of the request that a redirect leads to. -/
def redirectMethod (status : Nat) (method : Method) : Method :=
  if status = 303 ∨ status = 302 then .get
  else if status = 301 ∧ method = .post then .get
  else method

/-- The location that a response redirects to, if it does. -/
def Response.redirect? (response : Response) : Option String :=
  if isRedirect response.status then response.header? "location" else none

end Http

namespace World

/-- The next reply of the network, and the world without it. -/
def takeReply (world : World) : Http.Reply × World :=
  match world.replies with
  | [] => (.failure Http.unansweredText, world)
  | reply :: rest => (reply, { world with replies := rest })

/-- The fault of an address that nothing can be sent to. -/
def faultOf : LocationError → Fault
  | .malformed _ => .unrequestable
  | .hostName cause => .hostName cause
  | .notAscii => .notAscii
  | .reference cause => .address cause

/-- What the reply to one request leads to. -/
inductive Hop where
  | final (response : Http.Response)
  | failed (detail : String)
  | moved (method : Http.Method) (location : Location)
  | stopped (fault : Fault)

/-- What a response from a location leads to, after its body was read. -/
def Hop.ofPlain (method : Http.Method) (location : Location) (response : Http.Response) : Hop :=
  match location.kindlessText?, response.redirect? with
  | some text, _ => .stopped (.kindless text)
  | none, none => .final response
  | none, some target =>
      match Location.read target.toList with
      | .error reason => .failed ("Invalid URL in location header: " ++ reason ++ ".")
      | .ok target =>
          match location.redirect target with
          | .error cause => .stopped (faultOf cause)
          | .ok next => .moved (Http.redirectMethod response.status method) next

/-- What a response from a location leads to. -/
def Hop.ofResponse (method : Http.Method) (location : Location) (response : Http.Response) :
    Hop :=
  if !response.isWritable then .stopped .notAscii
  else
    match response.plain with
    | .error flaw => .failed flaw.message
    | .ok response => Hop.ofPlain method location response

/-- Sends one request to a location. -/
def hop (method : Http.Method) (location : Location) (world : World) : Hop × World :=
  match takeReply world with
  | (.failure detail, world) => (.failed detail, world)
  | (.response response, world) => (Hop.ofResponse method location response, world)

/-- The reply to a request at a location, after following a number of redirects at most. -/
def follow (method : Http.Method) (location : Location) :
    Nat → WorldAct (Except String Http.Response)
  | 0, world =>
      match hop method location world with
      | (.final response, world) => (.ok (.ok response), world)
      | (.failed detail, world) => (.ok (.error detail), world)
      | (.moved _ _, world) => (.ok (.error Http.tooManyRedirectsText), world)
      | (.stopped fault, world) => (.error fault, world)
  | hops + 1, world =>
      match hop method location world with
      | (.final response, world) => (.ok (.ok response), world)
      | (.failed detail, world) => (.ok (.error detail), world)
      | (.moved method location, world) =>
          follow method location hops (world.record (.redirect method location.toText))
      | (.stopped fault, world) => (.error fault, world)

/-- Creates a client. -/
def newClient (client : Http.Client) : WorldAct Unit :=
  emit (.client client)

/-- Sends a request: a final response, or the description of a transport failure. -/
def fetch (request : Http.Request) : WorldAct (Except String Http.Response) := fun world =>
  let world := world.record (.request request)
  match Location.requested request.url with
  | .error cause => (.error (faultOf cause), world)
  | .ok location => follow request.method location Http.maxRedirects world

/-! ## Replies are used up -/

theorem takeReply_replies_lt {world after : World} {response : Http.Response}
    (h : takeReply world = (.response response, after)) :
    after.replies.length < world.replies.length := by
  unfold takeReply at h
  split at h
  · simp at h
  · rename_i reply rest hreplies
    simp only [Prod.mk.injEq] at h
    rw [← h.2, hreplies]
    exact Nat.lt_succ_self _

/-- A hop that did not fail has used up a reply. -/
theorem hop_replies_lt {method : Http.Method} {location : Location} {world : World}
    (h : ∀ detail, (hop method location world).1 ≠ .failed detail) :
    (hop method location world).2.replies.length < world.replies.length := by
  revert h
  unfold hop
  split
  · intro h
    exact absurd rfl (h _)
  · rename_i response next htake
    exact fun _ => takeReply_replies_lt htake

theorem follow_replies_lt {method : Http.Method} {location : Location} {hops : Nat}
    {world after : World} {response : Http.Response}
    (h : follow method location hops world = (.ok (.ok response), after)) :
    after.replies.length < world.replies.length := by
  induction hops generalizing method location world with
  | zero =>
      have used := @hop_replies_lt method location world
      simp only [follow] at h
      split at h <;> rename_i next hhop <;> simp_all
  | succ hops ih =>
      have used := @hop_replies_lt method location world
      simp only [follow] at h
      split at h <;> rename_i next hhop
      · simp_all
      · simp at h
      · rw [hhop] at used
        exact Nat.lt_trans (ih h) (used (by simp))
      · simp at h

/-- An answered request has used up a reply. -/
theorem fetch_replies_lt {request : Http.Request} {world after : World}
    {response : Http.Response}
    (h : fetch request world = (.ok (.ok response), after)) :
    after.replies.length < world.replies.length := by
  unfold fetch at h
  split at h
  · simp at h
  · rename_i location hlocation
    have used := follow_replies_lt h
    exact used

end World

end TokenFlow
