/-
# TokenFlow.Proofs.Outline -- what is done on purpose

A trace holds more than what a call does: the network redirects, and anybody may send a
request to a listener.  The `outline` of a trace leaves both out.  What is left of a
request is the request alone (`outline_tokenEvents`), and of a visit that the listener was
up while one page was opened, whatever was sent to it.
-/
import TokenFlow.Proofs.Browsing
import TokenFlow.Proofs.Requests

namespace TokenFlow

set_option autoImplicit false

/-- Neither a redirect that was followed nor a request that came. -/
def Event.isDeed : Event → Bool
  | .redirect _ _ | .callback _ _ => false
  | .client _ | .request _ | .browser _ | .listen | .close | .sleep _ => true

/-- What was done on purpose, in order. -/
def outline (events : List Event) : List Event :=
  events.filter Event.isDeed

@[simp] theorem outline_nil : outline [] = [] :=
  rfl

@[simp] theorem outline_append (first later : List Event) :
    outline (first ++ later) = outline first ++ outline later :=
  List.filter_append ..

theorem outline_cons_of_isDeed {event : Event} (deed : event.isDeed = true)
    (events : List Event) : outline (event :: events) = event :: outline events :=
  List.filter_cons_of_pos deed

/-- What is done in two stretches of a trace is what is done in the one, and then in the
other. -/
theorem outline_trans {first middle last : List Event} {deeds deeds' : List Event}
    (early : ∃ events, middle = first ++ events ∧ outline events = deeds)
    (late : ∃ events, last = middle ++ events ∧ outline events = deeds') :
    ∃ events, last = first ++ events ∧ outline events = deeds ++ deeds' := by
  obtain ⟨events, rfl, rfl⟩ := early
  obtain ⟨events', rfl, rfl⟩ := late
  exact ⟨events ++ events', List.append_assoc .., outline_append ..⟩

/-- Redirects are none of it, -/
theorem outline_redirects {events : List Event} (only : ∀ event ∈ events, Event.IsRedirect event) :
    outline events = [] := by
  apply List.filter_eq_nil_iff.mpr
  intro event found
  obtain ⟨method, url, rfl⟩ := only event found
  exact Bool.false_ne_true

/-- and neither is what a browser sends. -/
theorem outline_exchangeEvents (exchanges : List (List UInt8 × Callback.Answer)) :
    outline (World.exchangeEvents exchanges) = [] := by
  apply List.filter_eq_nil_iff.mpr
  intro event found
  obtain ⟨exchange, -, rfl⟩ := List.mem_map.mp found
  exact Bool.false_ne_true

theorem outline_tokenEvents (endpoint : String) (form : Http.Form) {redirects : List Event}
    (only : ∀ event ∈ redirects, Event.IsRedirect event) :
    outline (Provider.tokenEvents endpoint form ++ redirects) =
      Provider.tokenEvents endpoint form := by
  rw [outline_append, outline_redirects only, List.append_nil]
  rfl

end TokenFlow
