/-
# TokenFlow.Proofs.Accounted -- where the fault of an action comes from

An action stops at a failure, or at something outside that taxonomy.  For the latter there
are two sources: the network, which raises a fault in answer to a request, and an amount
of time that is a whole number beyond all doubles.  A fault from these sources is
`Accounted` for by the requests that were made and the amounts that were waited for.

Actions whose faults are all accounted for put together give such an action
(`Accounts.bind`).  Discovery, the page that a login opens and the rounds of polling are
put together from a few of them.
-/
import TokenFlow.Configuration
import TokenFlow.Proofs.Browsing
import TokenFlow.Proofs.Correspondence

namespace TokenFlow

set_option autoImplicit false

open TokenFlow.Number

/-- A failure; or the network gave this fault for one of these requests; or one of these
amounts is beyond all doubles. -/
inductive Accounted (waits : List Amount) (entries : List Enquiry) : Fault → Prop
  | failure (cause : Failure) : Accounted waits entries (.failure cause)
  | network {entry : Enquiry} {fault : Fault} (found : entry ∈ entries)
      (answer : entry.answer = .error fault) (network : fault.IsOfNetwork) :
      Accounted waits entries fault
  | endless {wait : Amount} (found : wait ∈ waits) (endless : wait.toBinary64? = none) :
      Accounted waits entries .overflow

theorem Accounted.mono {waits : List Amount} {entries more : List Enquiry} {fault : Fault}
    (accounted : Accounted waits entries fault) (subset : entries ⊆ more) :
    Accounted waits more fault := by
  cases accounted with
  | failure cause => exact .failure cause
  | network found answer network => exact .network (subset found) answer network
  | endless found endless => exact .endless found endless

namespace World

/-! ## Actions -/

/-- The action asks the network as its trace tells, and its faults are accounted for. -/
def Accounts {α : Type} (waits : List Amount) (action : WorldAct α) : Prop :=
  ∀ world, ∃ entries, world.Asks (action world).2 entries ∧
    ∀ fault, (action world).1 = .error fault → Accounted waits entries fault

namespace Accounts

variable {α β : Type} {waits : List Amount}

/-! ### Sequences -/

/-- What asks nothing and comes to a value. -/
theorem of_silent {action : WorldAct α}
    (silent : ∀ world, world.Asks (action world).2 [] ∧ ∃ value, (action world).1 = .ok value) :
    Accounts waits action := by
  intro world
  obtain ⟨asks, value, came⟩ := silent world
  refine ⟨[], asks, fun fault stopped => ?_⟩
  rw [came] at stopped
  cases stopped

theorem pure (value : α) : Accounts waits (Pure.pure value : WorldAct α) :=
  of_silent fun world => ⟨.refl world, value, rfl⟩

theorem get : Accounts waits (Act.get : WorldAct World) :=
  of_silent fun world => ⟨.refl world, world, rfl⟩

theorem fail (cause : Failure) : Accounts waits (Act.fail cause : WorldAct α) := by
  intro world
  refine ⟨[], .refl world, fun fault stopped => ?_⟩
  obtain rfl : .failure cause = fault := Except.error.inj stopped
  exact .failure cause

/-- What the first part of a sequence gives may be used in the second. -/
theorem bind_given {given : α → Prop} {action : WorldAct α} {next : α → WorldAct β}
    (first : Accounts waits action) (gives : Act.Gives given action)
    (second : ∀ value, given value → Accounts waits (next value)) :
    Accounts waits (action >>= next) := by
  intro world
  obtain ⟨entries, asks, accounted⟩ := first world
  rcases ran : action world with ⟨fault | value, middle⟩
  · rw [ran] at asks accounted
    rw [Act.bind_of_error ran]
    refine ⟨entries, asks, fun cause stopped => ?_⟩
    obtain rfl : fault = cause := Except.error.inj stopped
    exact accounted fault rfl
  · have here : given value := gives world value (by rw [ran])
    rw [ran] at asks
    rw [Act.bind_of_ok ran]
    obtain ⟨later, asks', accounted'⟩ := second value here middle
    refine ⟨entries ++ later, asks.trans asks', fun cause stopped => ?_⟩
    exact (accounted' cause stopped).mono (List.subset_append_right entries later)

theorem bind {action : WorldAct α} {next : α → WorldAct β} (first : Accounts waits action)
    (second : ∀ value, Accounts waits (next value)) : Accounts waits (action >>= next) :=
  bind_given first (.anything action) fun value _ => second value

theorem map {action : WorldAct α} (accounts : Accounts waits action) (f : α → β) :
    Accounts waits (f <$> action) :=
  bind accounts fun value => pure (f value)

/-! ### Steps -/

theorem emit {event : Event} (silent : event.request? = none) :
    Accounts waits (World.emit event) :=
  of_silent fun world => ⟨world.record_asks silent, (), rfl⟩

theorem write (level : Level) (source : Source) (message : String) :
    Accounts waits (World.write level source message) :=
  of_silent fun _ => ⟨.of_eq rfl rfl, (), rfl⟩

theorem fetch (request : Http.Request) : Accounts waits (World.fetch request) := by
  intro world
  refine ⟨_, fetch_asks request world, fun fault stopped => ?_⟩
  exact .network (List.mem_singleton_self _) stopped (isOfNetwork_of_fetch stopped)

theorem seconds {wait : Amount} (found : wait ∈ waits) :
    Accounts waits (Act.seconds wait : WorldAct Binary64) := by
  unfold Act.seconds
  split
  · exact pure _
  · rename_i endless
    intro world
    refine ⟨[], .refl world, fun fault stopped => ?_⟩
    obtain rfl : .overflow = fault := Except.error.inj stopped
    exact .endless found endless

theorem elapse {wait : Amount} (found : wait ∈ waits) : Accounts waits (World.elapse wait) := by
  intro world
  unfold World.elapse
  split
  · refine ⟨[], .of_eq rfl rfl, fun fault stopped => ?_⟩
    cases stopped
  · rename_i endless
    refine ⟨[], .refl world, fun fault stopped => ?_⟩
    obtain rfl : .overflow = fault := Except.error.inj stopped
    exact .endless found (toBinary64?_of_elapsed? endless)

theorem sleep {wait : Amount} (found : wait ∈ waits) : Accounts waits (World.sleep wait) :=
  bind (emit rfl) fun _ => elapse found

end Accounts

end World

open World

/-! ## Discovery -/

theorem Discovery.endpoints_accounts (issuer : String) :
    Accounts [] (Discovery.endpoints issuer) := by
  unfold Discovery.endpoints
  refine .bind (.write _ _ _) fun _ => .bind (.emit rfl) fun _ => ?_
  refine .bind (.fetch _) fun reply => ?_
  cases conclude issuer reply with
  | ok endpoints => exact .pure endpoints
  | error failure => exact .fail failure

/-! ## Delegated login -/

namespace DelegatedProvider

variable (provider : DelegatedProvider)

/-- The amounts that a login waits for. -/
def waits : List Amount :=
  [provider.pollInterval, provider.pollTimeout]

theorem ask_accounts {waits : List Amount} (url : String) : Accounts waits (ask url) := by
  unfold ask
  refine .bind (.fetch _) fun reply => ?_
  cases reply with
  | ok response => exact .pure response
  | error detail => exact .fail _

/-- A round asks once, after a wait that may be beyond all doubles. -/
theorem pollOnce_accounts (url : String) : Accounts provider.waits (provider.pollOnce url) := by
  unfold pollOnce
  have interval : provider.pollInterval ∈ provider.waits := List.mem_cons_self
  refine .bind (.sleep interval) fun _ => .bind (ask_accounts url) fun response => ?_
  refine .bind (.of_silent fun world => ⟨?_, (), rfl⟩) fun _ => ?_
  · show world.Asks (noteDisturbance response world) []
    unfold noteDisturbance
    split
    · exact .refl world
    · exact .of_eq rfl rfl
  · cases answerOf response with
    | ok answer => exact .pure answer
    | error failure => exact .fail failure

/-- Before the deadline, polling is a round and what it leads to. -/
theorem poll_of_early {url : String} {seconds deadline : Binary64} {world : World}
    (early : world.clock.lt deadline = true) :
    provider.poll url seconds deadline world =
      match provider.pollOnce url world with
      | (.ok (some token), after) => (.ok token, after)
      | (.ok none, after) => provider.poll url seconds deadline after
      | (.error fault, after) => (.error fault, after) := by
  rw [poll, if_pos early]
  split <;> rename_i round <;> rw [round]

/-- The induction is on the replies that are left, as in `poll` itself: what a round asks is
followed by what the rounds after it ask. -/
theorem poll_accounts (url : String) (seconds deadline : Binary64) :
    Accounts provider.waits (provider.poll url seconds deadline) := by
  intro world
  induction world using DelegatedProvider.poll.induct provider url deadline with
  | case1 world early token after round =>
      obtain ⟨entries, asks, -⟩ := provider.pollOnce_accounts url world
      rw [round] at asks
      rw [provider.poll_of_early early, round]
      refine ⟨entries, asks, fun fault stopped => ?_⟩
      cases stopped
  | case2 world early after round ih =>
      obtain ⟨entries, asks, -⟩ := provider.pollOnce_accounts url world
      obtain ⟨later, asks', accounted⟩ := ih
      rw [round] at asks
      rw [provider.poll_of_early early, round]
      refine ⟨entries ++ later, asks.trans asks', fun fault stopped => ?_⟩
      exact (accounted fault stopped).mono (List.subset_append_right entries later)
  | case3 world early fault after round =>
      obtain ⟨entries, asks, accounted⟩ := provider.pollOnce_accounts url world
      rw [round] at asks accounted
      rw [provider.poll_of_early early, round]
      refine ⟨entries, asks, fun cause stopped => accounted cause ?_⟩
      rw [Except.error.inj stopped]
  | case4 world late =>
      rw [poll, if_neg late]
      refine ⟨[], .refl world, fun fault stopped => ?_⟩
      cases stopped
      exact .failure _

theorem pollForToken_accounts (session : String) :
    Accounts provider.waits (provider.pollForToken session) := by
  unfold pollForToken
  have timeout : provider.pollTimeout ∈ provider.waits :=
    List.mem_cons_of_mem _ (List.mem_singleton_self _)
  refine .bind .get fun world => .bind (.seconds timeout) fun seconds => ?_
  exact .bind (provider.poll_accounts _ _ _) fun token => .bind (.write _ _ _) fun _ => .pure token

end DelegatedProvider

/-- The amounts that a call may wait for. -/
def Provider.waits : Provider → List Amount
  | .code provider => [provider.callbackTimeout]
  | .delegated provider => provider.waits

end TokenFlow
