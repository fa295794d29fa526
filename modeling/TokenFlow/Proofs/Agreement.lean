/-
# TokenFlow.Proofs.Agreement -- runs that cannot be told apart

Two actions `Agree` when, from states that are alike, they come to the same and leave
states that are alike.  Sequences of actions that agree do (`Agree.bind`), so whole runs
are compared step by step.

Worlds are alike when they differ in nothing but the secrets on their traces: the values of
two form fields of the requests that were sent (`Event.redacted`).  No step of a login with
a browser looks at its trace, and so every one is `Blind` to such a difference, and a
request only adds to it (`fetch_agrees`).
-/
import TokenFlow.Proofs.Actions
import TokenFlow.Provider.Code

namespace TokenFlow

set_option autoImplicit false

open TokenFlow.Number TokenFlow.Callback

/-! ## Actions -/

namespace Act

variable {σ α β : Type}

/-- From states that are alike, the actions come to the same and leave states that are alike. -/
def Agree (alike : σ → σ → Prop) (action other : Act σ α) : Prop :=
  ∀ state twin, alike state twin →
    (action state).1 = (other twin).1 ∧ alike (action state).2 (other twin).2

namespace Agree

variable {alike : σ → σ → Prop}

theorem pure (value : α) : Agree alike (Pure.pure value) (Pure.pure value) :=
  fun _ _ same => ⟨rfl, same⟩

theorem raise (fault : Fault) : Agree alike (Act.raise fault : Act σ α) (Act.raise fault) :=
  fun _ _ same => ⟨rfl, same⟩

theorem lift (result : Except Fault α) : Agree alike (Act.lift result) (Act.lift result) :=
  fun _ _ same => ⟨rfl, same⟩

theorem update {change other : σ → σ}
    (same : ∀ state twin, alike state twin → alike (change state) (other twin)) :
    Agree alike (Act.update change) (Act.update other) :=
  fun state twin h => ⟨rfl, same state twin h⟩

/-- What is read may differ, as long as what is done with it does not. -/
theorem reading {next other : σ → Act σ α}
    (same : ∀ state twin, alike state twin → Agree alike (next state) (other twin)) :
    Agree alike (Act.get >>= next) (Act.get >>= other) :=
  fun state twin here => same state twin here state twin here

theorem bind {action other : Act σ α} {next after : α → Act σ β}
    (first : Agree alike action other) (second : ∀ value, Agree alike (next value) (after value)) :
    Agree alike (action >>= next) (other >>= after) := by
  intro state twin same
  obtain ⟨result, same'⟩ := first state twin same
  rcases one : action state with ⟨came, middle⟩
  rcases two : other twin with ⟨came', middle'⟩
  rw [one, two] at result same'
  obtain rfl : came = came' := result
  cases came with
  | error fault =>
      rw [bind_of_error one, bind_of_error two]
      exact ⟨rfl, same'⟩
  | ok value =>
      rw [bind_of_ok one, bind_of_ok two]
      exact second value middle middle' same'

theorem map {action other : Act σ α} (same : Agree alike action other) (f : α → β) :
    Agree alike (f <$> action) (f <$> other) :=
  bind same fun value => pure (f value)

theorem attempt {action other : Act σ α} (same : Agree alike action other) :
    Agree alike (Act.attempt action) (Act.attempt other) := by
  intro state twin here
  obtain ⟨result, same'⟩ := same state twin here
  rcases one : action state with ⟨came, middle⟩
  rcases two : other twin with ⟨came', middle'⟩
  rw [one, two] at result same'
  obtain rfl : came = came' := result
  simp only [Act.attempt, one, two]
  rcases came with fault | value
  · cases fault <;> exact ⟨rfl, same'⟩
  · exact ⟨rfl, same'⟩

theorem thenAlways {action other : Act σ α} {last after : σ → σ}
    (first : Agree alike action other)
    (second : ∀ state twin, alike state twin → alike (last state) (after twin)) :
    Agree alike (Act.thenAlways action last) (Act.thenAlways other after) := by
  intro state twin same
  obtain ⟨result, same'⟩ := first state twin same
  exact ⟨result, second _ _ same'⟩

end Agree

end Act

/-! ## Traces without secrets -/

/-- The form fields with secrets in them. -/
def secretFields : List String := ["client_secret", "refresh_token"]

def Http.Form.redacted (form : Http.Form) : Http.Form :=
  form.map fun (name, value) => (name, if name ∈ secretFields then "" else value)

def Http.Request.redacted (request : Http.Request) : Http.Request :=
  { request with form := request.form.map Http.Form.redacted }

/-- The event with its secrets blanked. -/
def Event.redacted : Event → Event
  | .request sent => .request sent.redacted
  | event => event

namespace World

/-- The world as if no secret had been sent. -/
def redacted (world : World) : World :=
  { world with trace := world.trace.map Event.redacted }

/-- The worlds differ in secrets that were sent, if at all. -/
def Alike (world twin : World) : Prop :=
  world.redacted = twin.redacted

/-- The action makes no difference between worlds that are alike. -/
abbrev Blind {α : Type} (action : WorldAct α) : Prop :=
  Act.Agree Alike action action

/-! ### Changes -/

theorem redacted_record (world : World) (event : Event) :
    (world.record event).redacted = world.redacted.record event.redacted := by
  simp [redacted, record]

/-- A change that does not look at the trace. -/
theorem Alike.change {world twin : World} (same : world.Alike twin) (change : World → World)
    (commutes : ∀ world, (change world).redacted = change world.redacted) :
    (change world).Alike (change twin) := by
  unfold Alike
  rw [commutes, commutes, same]

theorem Alike.record {world twin : World} (same : world.Alike twin) {event other : Event}
    (shown : event.redacted = other.redacted) : (world.record event).Alike (twin.record other) := by
  unfold Alike
  rw [redacted_record, redacted_record, same, shown]

namespace Blind

variable {α : Type}

/-- An action that does not look at the trace. -/
theorem of_commutes {action : WorldAct α}
    (commutes : ∀ world, action world.redacted = ((action world).1, (action world).2.redacted)) :
    Blind action := by
  intro world twin same
  have one := commutes world
  have two := commutes twin
  rw [same, two] at one
  obtain ⟨result, left⟩ := Prod.mk.inj one
  exact ⟨result.symm, left.symm⟩

theorem update {change : World → World}
    (commutes : ∀ world, (change world).redacted = change world.redacted) :
    Blind (Act.update change) :=
  Act.Agree.update fun _ _ same => same.change change commutes

theorem emit (event : Event) : Blind (World.emit event) :=
  Act.Agree.update fun _ _ same => same.record rfl

theorem write (level : Level) (source : Source) (message : String) :
    Blind (World.write level source message) :=
  of_commutes fun _ => rfl

theorem draw (count : Nat) : Blind (World.draw count) :=
  of_commutes fun _ => rfl

theorem pick (bound : Nat) (positive : 0 < bound) (count : Nat) :
    Blind (World.pick bound positive count) :=
  of_commutes fun _ => rfl

end Blind

/-! ### Requests -/

theorem redacted_hop (method : Http.Method) (location : Url.Location) (world : World) :
    hop method location world.redacted =
      ((hop method location world).1, (hop method location world).2.redacted) := by
  have taken : takeReply world.redacted =
      ((takeReply world).1, (takeReply world).2.redacted) := by
    have same : world.redacted.replies = world.replies := rfl
    unfold takeReply
    rw [same]
    cases world.replies <;> rfl
  unfold hop
  rw [taken]
  rcases takeReply world with ⟨response | detail, after⟩ <;> rfl

theorem redacted_follow (method : Http.Method) (location : Url.Location) (hops : Nat)
    (world : World) :
    follow method location hops world.redacted =
      ((follow method location hops world).1, (follow method location hops world).2.redacted) := by
  induction hops generalizing method location world with
  | zero =>
      rw [follow, follow, redacted_hop]
      rcases hop method location world with ⟨led, after⟩
      cases led <;> rfl
  | succ hops ih =>
      rw [follow, follow, redacted_hop]
      rcases hop method location world with ⟨led, after⟩
      cases led with
      | moved method location =>
          have recorded : (after.record (.redirect method location.toText)).redacted =
              after.redacted.record (.redirect method location.toText) := after.redacted_record _
          exact (congrArg (follow method location hops) recorded.symm).trans (ih method location _)
      | final response => rfl
      | failed detail => rfl
      | stopped fault => rfl

/-- Requests that look alike come to the same. -/
theorem fetch_agrees {request other : Http.Request}
    (shown : request.redacted = other.redacted) :
    Act.Agree Alike (fetch request) (fetch other) := by
  have url : request.redacted.url = other.redacted.url := by rw [shown]
  have method : request.redacted.method = other.redacted.method := by rw [shown]
  intro world twin same
  have same : (world.record (.request request)).Alike (twin.record (.request other)) :=
    same.record (congrArg Event.request shown)
  unfold fetch
  rw [show request.url = other.url from url, show request.method = other.method from method]
  cases Url.Location.requested other.url with
  | error cause => exact ⟨rfl, same⟩
  | ok location =>
      exact Blind.of_commutes (redacted_follow other.method location Http.maxRedirects) _ _ same

/-! ### Browser and listener -/

theorem redacted_foldl_note (notes : List String) (world : World) :
    (notes.foldl (fun world text => world.note .debug .callback text) world).redacted =
      notes.foldl (fun world text => world.note .debug .callback text) world.redacted := by
  induction notes generalizing world with
  | nil => rfl
  | cons text notes ih => exact ih _

theorem redacted_deliver (rival : Option Outcome) (request : List UInt8) (world : World) :
    (deliver rival request world).2.redacted = (deliver rival request world.redacted).2 := by
  have same : world.redacted.listener = world.listener := rfl
  unfold deliver
  rw [same]
  cases world.listener with
  | none => exact redacted_record _ _
  | some listener =>
      rcases listener.receive rival request with ⟨⟨answer, notes⟩, listener⟩
      dsimp only
      rw [redacted_record, redacted_foldl_note]
      rfl

theorem redacted_deliverAll (rival : Option Outcome) (requests : List (List UInt8))
    (world : World) :
    (deliverAll rival requests world).redacted = deliverAll rival requests world.redacted := by
  induction requests generalizing world with
  | nil => rfl
  | cons request requests ih =>
      show (deliverAll rival requests _).redacted = deliverAll rival requests _
      rw [ih, redacted_deliver]

theorem isDone_redacted (world : World) : world.redacted.isDone = world.isDone :=
  rfl

theorem redacted_happen (rival : Option Outcome) (world : World) (happening : Happening) :
    (happen rival world happening).redacted = happen rival world.redacted happening := by
  cases happening with
  | request octets => exact redacted_deliver rival octets world
  | stop => rfl
  | pause seconds =>
      rw [happen, happen, isDone_redacted]
      split <;> rfl

theorem redacted_happenings (rival : Option Outcome) (happenings : List Happening)
    (world : World) :
    (happenings.foldl (happen rival) world).redacted =
      happenings.foldl (happen rival) world.redacted := by
  induction happenings generalizing world with
  | nil => rfl
  | cons happening happenings ih =>
      rw [List.foldl_cons, List.foldl_cons, ih, redacted_happen]

/-- What does not look at the trace is the same in worlds that are alike. -/
theorem Alike.eq {α : Type} {world twin : World} (same : world.Alike twin) (look : World → α)
    (blind : ∀ world, look world.redacted = look world) : look world = look twin := by
  rw [← blind world, ← blind twin, same]

theorem Alike.listener {world twin : World} (same : world.Alike twin) :
    world.listener = twin.listener :=
  same.eq World.listener fun _ => rfl

theorem Alike.isDone {world twin : World} (same : world.Alike twin) :
    world.isDone = twin.isDone :=
  same.eq World.isDone isDone_redacted

namespace Blind

theorem startListener : Blind World.startListener := by
  unfold World.startListener
  apply Act.Agree.reading
  intro world twin same
  rw [same.listener, same.eq World.bindFails fun _ => rfl]
  split
  · exact .raise _
  split
  · exact .bind (update fun _ => rfl) fun _ => .raise _
  · refine .bind (of_commutes fun _ => rfl) fun port => ?_
    exact .bind (update fun _ => rfl) fun _ => .bind (emit _) fun _ => write _ _ _

theorem listenerUri : Blind World.listenerUri := by
  unfold World.listenerUri World.listenerPort
  refine .bind (.reading fun world twin same => ?_) fun _ => .pure _
  rw [same.listener]
  cases twin.listener.bind Listener.port with
  | some port => exact .pure port
  | none => exact .raise _

theorem expire (deadline : Option Binary64) : Blind (World.expire deadline) := by
  cases deadline with
  | some clock => exact update fun _ => rfl
  | none => exact .raise _

theorem block (rival : Option Outcome) (timeout : Amount) (happenings : List Happening) :
    Blind (World.block rival timeout happenings) := by
  unfold World.block
  refine .reading fun world twin same => ?_
  rw [same.isDone, same.eq World.longestWait fun _ => rfl,
    same.eq (·.deadline? timeout) fun _ => rfl]
  split
  · exact .pure ()
  split
  · exact .raise _
  refine .bind (update fun world => redacted_happenings rival _ world) fun _ => ?_
  refine .reading fun later late same => ?_
  rw [same.isDone]
  split
  · exact .pure ()
  · exact expire _

theorem awaitCode (rival : Option Outcome) (timeout : Amount) (happenings : List Happening) :
    Blind (World.awaitCode rival timeout happenings) := by
  unfold World.awaitCode World.awaitOutcome
  refine .bind (.bind (block rival timeout happenings) fun _ => .reading fun world twin same => ?_)
    fun outcome => ?_
  · rw [same.listener]
    cases twin.listener with
    | none => exact .pure _
    | some listener =>
        dsimp only
        cases listener.waitText? timeout with
        | none => exact .raise _
        | some reason => exact .bind (update fun _ => rfl) fun _ => .pure _
  · cases outcome.code? with
    | some code => exact .pure code
    | none => exact .raise _

theorem takeVisit : Blind (Act.step World.takeVisit) := by
  apply of_commutes
  intro world
  have same : world.redacted.visits = world.visits := rfl
  unfold Act.step World.takeVisit
  rw [same]
  cases world.visits <;> rfl

theorem openBrowser (url : String) : Blind (World.openBrowser url) := by
  unfold World.openBrowser
  refine .bind (emit _) fun _ => .bind takeVisit fun visit => ?_
  have visited (result : Bool × List Happening) :
      Blind (Act.update (deliverAll none (visit.during url)) >>= fun _ => pure result) :=
    .bind (update (redacted_deliverAll none _)) fun _ => .pure result
  cases visit.opening with
  | error => exact .bind (write _ _ _) fun _ => .pure _
  | raised fault => exact .bind (update (redacted_deliverAll none _)) fun _ => .raise fault
  | opened => exact visited _
  | declined => exact visited _

theorem launchBrowser (url : String) : Blind (World.launchBrowser url) := by
  unfold World.launchBrowser
  refine .bind (openBrowser url) fun opened => ?_
  rcases opened with ⟨opened, later⟩
  cases opened with
  | true => exact .pure later
  | false => exact .bind (write _ _ _) fun _ => .raise _

end Blind

end World

/-! ## Login with a browser -/

open World

theorem ProofKey.generate_blind (length : Int) : Blind (ProofKey.generate length) := by
  unfold ProofKey.generate
  split
  · exact .bind (Blind.pick _ _ _) fun _ => .pure _
  · exact .raise _

namespace CodeProvider

theorem listen_blind (state : String) : Blind (listen state) := by
  intro world twin same
  have created : World.Alike { world with listener := some (Listener.create state) }
      { twin with listener := some (Listener.create state) } :=
    same.change (fun world => { world with listener := some (Listener.create state) }) fun _ => rfl
  obtain ⟨result, same'⟩ := Blind.startListener _ _ created
  unfold listen
  rcases one : startListener { world with listener := some (Listener.create state) } with
    ⟨came, after⟩
  rcases two : startListener { twin with listener := some (Listener.create state) } with
    ⟨came', after'⟩
  rw [one, two] at result same'
  obtain rfl : came = came' := result
  rcases came with fault | value
  · cases fault <;> exact ⟨rfl, same'⟩
  · exact ⟨rfl, same'⟩

theorem whileListening_blind {α : Type} (state : String) {action : WorldAct α}
    (blind : Blind action) : Blind (whileListening state action) := by
  refine .bind (listen_blind state) fun _ => .thenAlways blind fun _ _ same => ?_
  exact same.change stopListener fun _ => redacted_record _ _

theorem authorize_blind (provider : CodeProvider) (state : String) (key : ProofKey) :
    Blind (provider.authorize state key) := by
  unfold authorize
  refine .bind Blind.listenerUri fun _ => .bind (Blind.write _ _ _) fun _ => ?_
  refine .bind (Blind.launchBrowser _) fun later => ?_
  exact .bind (Blind.awaitCode _ _ later) fun _ => .pure _

theorem obtainCode_blind (provider : CodeProvider) : Blind provider.obtainCode := by
  unfold obtainCode drawState
  refine .bind (ProofKey.generate_blind _) fun key => ?_
  refine .bind (.bind (Blind.draw _) fun _ => .pure _) fun state => ?_
  refine .bind (whileListening_blind state (provider.authorize_blind state key)) fun code => ?_
  exact .bind (Blind.write _ _ _) fun _ => .pure _

end CodeProvider

end TokenFlow
