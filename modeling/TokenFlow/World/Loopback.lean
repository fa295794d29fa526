/-
# TokenFlow.World.Loopback -- the browser and the listener in the world

A browser that is opened may send requests to the listener that was started
last, at once or while the login waits.  Every delivered request is answered,
recorded and noted.  A wait is over as soon as an outcome is recorded or the
listener is stopped, whatever time has passed by then; if neither happens, the
clock moves to the end of the wait, and what would come later does not come.
-/
import TokenFlow.World.Basic

namespace TokenFlow

set_option autoImplicit false

open TokenFlow.Number TokenFlow.Callback

/-- What can happen to a listener while somebody waits for it. -/
inductive Happening where
  | request (octets : List UInt8)
  | stop
  /-- Time goes by. -/
  | pause (seconds : Binary64)
  deriving DecidableEq, Repr

/-- An arrival: some time, and then a request. -/
def Arrival.happenings (arrival : Arrival) : List Happening :=
  [.pause arrival.delay, .request arrival.request]

namespace World

/-! ## Requests -/

/-- The answer of the listener that was started last. -/
def deliver (rival : Option Outcome) (request : List UInt8) (world : World) : Answer × World :=
  match world.listener with
  | none => (.refused, world.record (.callback request .refused))
  | some listener =>
      let ((answer, notes), listener) := listener.receive rival request
      let world := notes.foldl (fun world text => world.note .debug .callback text)
        { world with listener := some listener }
      (answer, world.record (.callback request answer))

def deliverAll (rival : Option Outcome) (requests : List (List UInt8)) (world : World) : World :=
  requests.foldl (fun world request => (deliver rival request world).2) world

/-! ## Listener -/

def changeListener (change : Listener → Listener) (world : World) : World :=
  { world with listener := world.listener.map change }

/-- The port that listeners get where nothing else is said. -/
def usualPort : Nat := 50000

/-- The port that the next listener will get. -/
def nextPort (world : World) : Nat :=
  world.ports.headD usualPort

/-- The port of a new listener, and the world without it. -/
def takePort (world : World) : Nat × World :=
  (world.nextPort, { world with ports := world.ports.tail })

/-- Binds and starts the listener of this world, unless it runs already or
cannot be bound; a failure to bind concerns one attempt only. -/
def startListener : WorldAct Unit := do
  let world ← Act.get
  if world.listener.any (·.running) then Act.raise .listenerStarted
  else if world.bindFails then
    Act.update fun world => { world with bindFails := false }
    Act.raise .addressInUse
  else
    let port ← Act.step takePort
    Act.update (changeListener (Listener.start port))
    emit .listen
    write .debug .callback ("OAuth callback server listening on " ++ redirectUri port)

/-- Stops the listener of this world. -/
def stopListener (world : World) : World :=
  (changeListener Listener.stop world).record .close

/-- The port of the listener while it runs. -/
def listenerPort : WorldAct Nat := do
  match (← Act.get).listener.bind Listener.port with
  | some port => pure port
  | none => Act.raise .listenerStopped

/-- The address that redirects go to, while the listener runs. -/
def listenerUri : WorldAct String := do
  pure (redirectUri (← listenerPort))

/-! ## Waiting -/

def isDone (world : World) : Bool :=
  world.listener.any (·.done)

/-- Nobody counts the time after the wait is over: what still comes then comes while the
caller wakes up. -/
def happen (rival : Option Outcome) (world : World) : Happening → World
  | .request octets => (deliver rival octets world).2
  | .stop => changeListener Listener.stop world
  | .pause seconds => if isDone world then world else world.pass seconds.clamp

/-- What happens from a moment up to a deadline. -/
def timely (deadline : Binary64) : Binary64 → List Happening → List Happening
  | _, [] => []
  | clock, .pause seconds :: rest =>
      let later := clock.add seconds.clamp
      if deadline.lt later then [] else .pause seconds :: timely deadline later rest
  | clock, happening :: rest => happening :: timely deadline clock rest

/-- The end of a wait that starts now; none when its length is beyond all doubles. -/
def deadline? (world : World) (timeout : Amount) : Option Binary64 :=
  timeout.elapsed?.map world.clock.add

/-- What of all that is to happen happens during a wait that starts now. -/
def during (world : World) (timeout : Amount) (happenings : List Happening) : List Happening :=
  match world.deadline? timeout with
  | some deadline => timely deadline world.clock happenings
  | none => happenings

/-- Time runs out. -/
def expire (deadline : Option Binary64) : WorldAct Unit :=
  match deadline with
  | some clock => Act.update fun world => { world with clock }
  | none => Act.raise .overflow

/-- Waits until something wakes the caller, or the time is over. -/
def block (rival : Option Outcome) (timeout : Amount) (happenings : List Happening) :
    WorldAct Unit := do
  let world ← Act.get
  unless isDone world do
    if timeout.exceeds world.longestWait then Act.raise .overflow
    else
      Act.update fun world => (world.during timeout happenings).foldl (happen rival) world
      unless isDone (← Act.get) do
        expire (world.deadline? timeout)

/-- Waits for the outcome of the listener; running out of time is one too. -/
def awaitOutcome (rival : Option Outcome) (timeout : Amount) (happenings : List Happening) :
    WorldAct Outcome := do
  block rival timeout happenings
  match (← Act.get).listener with
  | none => pure (Outcome.ofTimeout none)
  | some listener =>
      match listener.waitText? timeout with
      | none => Act.raise .overflow
      | some reason =>
          let (outcome, listener) := listener.conclude rival reason
          Act.update fun world => { world with listener := some listener }
          pure outcome

/-- Waits for a code, and fails as the outcome says when there is none. -/
def awaitCode (rival : Option Outcome) (timeout : Amount) (happenings : List Happening) :
    WorldAct String := do
  let outcome ← awaitOutcome rival timeout happenings
  match outcome.code? with
  | some code => pure code
  | none => Act.fail outcome.exception

/-! ## Browser -/

/-- The next visit of the browser, and the world without it. -/
def takeVisit (world : World) : Visit × World :=
  match world.visits with
  | [] => (.idle, world)
  | visit :: rest => (visit, { world with visits := rest })

/-- Opens a page; says whether it was opened, and what the browser does later.  An opener
that raises has sent its requests before. -/
def openBrowser (url : String) : WorldAct (Bool × List Happening) := do
  emit (.browser url)
  let visit ← Act.step takeVisit
  match visit.opening with
  | .error =>
      write .debug .provider
        "webbrowser could not open a browser: could not locate runnable browser"
      pure (false, [])
  | .raised fault =>
      Act.update (deliverAll none (visit.during url))
      Act.raise fault
  | opening =>
      Act.update (deliverAll none (visit.during url))
      pure (decide (opening = .opened), (visit.later url).flatMap Arrival.happenings)

/-- Opens the login page, or fails with the address to open by hand. -/
def launchBrowser (url : String) : WorldAct (List Happening) := do
  let (opened, later) ← openBrowser url
  if opened then pure later
  else
    write .warning .provider
      ("Cannot open browser automatically. Please open this URL manually:\n" ++ url)
    Act.fail (.interaction (.browserUnavailable url))

end World

end TokenFlow
