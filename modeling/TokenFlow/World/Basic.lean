/-
# TokenFlow.World.Basic -- everything outside a login, as one value

A login acts on a clock, random octets, the network, a browser and a listener.
`World` holds what each of them will do, and what was done to them so far: the
trace of events and the log.  An action is a function from a world to a result
and the world after it, and its result is a value or a fault; the world after a
fault is kept, because what was done stays done.
-/
import TokenFlow.Callback.Listener
import TokenFlow.World.Entropy
import TokenFlow.World.Http

namespace TokenFlow

set_option autoImplicit false

open TokenFlow.Number TokenFlow.Callback

/-! ## Log -/

inductive Level where
  | debug
  | info
  | warning
  | error
  deriving DecidableEq, Repr

def Level.name : Level → String
  | .debug => "DEBUG"
  | .info => "INFO"
  | .warning => "WARNING"
  | .error => "ERROR"

/-- The part of the program that writes to the log. -/
inductive Source where
  | commandLine
  | provider
  | callback
  | discovery
  deriving DecidableEq, Repr

structure LogEntry where
  level : Level
  source : Source
  message : String
  deriving DecidableEq, Repr

/-! ## Events -/

/-- What is done to the world. -/
inductive Event where
  | client (client : Http.Client)
  | request (request : Http.Request)
  | redirect (method : Http.Method) (url : String)
  | browser (url : String)
  | listen
  /-- A request was delivered to a listener and answered. -/
  | callback (request : List UInt8) (answer : Answer)
  | close
  | sleep (seconds : Amount)
  deriving DecidableEq, Repr

/-! ## Browser -/

/-- What opening a browser comes to. -/
inductive Opening where
  | opened
  | declined
  /-- There is no browser to run. -/
  | error
  /-- Whoever opens pages for the caller stops the login. -/
  | raised (fault : Fault)
  deriving DecidableEq, Repr

/-- A request that is sent while a login waits, and the seconds before it. -/
structure Arrival where
  delay : Binary64
  request : List UInt8
  deriving DecidableEq, Repr

/-- One visit of a browser: what opening it comes to, and the requests it sends
to the listener, which depend on the address that is opened.  `during` are sent
before opening returns, `later` while the login waits, one after another. -/
structure Visit where
  opening : Opening
  during : String → List (List UInt8)
  later : String → List Arrival

/-- A visit in which the page is opened and nothing happens. -/
def Visit.idle : Visit := ⟨.opened, fun _ => [], fun _ => []⟩

/-! ## World -/

structure World where
  /-- Seconds, for waiting and for expiry alike. -/
  clock : Binary64
  entropy : Entropy
  /-- What the network will give, one reply per request. -/
  replies : List Http.Reply
  /-- What the browser will do, one visit per opened page. -/
  visits : List Visit
  /-- The ports that listeners will get, one per listener that is bound. -/
  ports : List Nat
  /-- The seconds above which the system refuses to watch anything; infinite where it never does. -/
  longestWait : Binary64
  /-- The next listener cannot be bound. -/
  bindFails : Bool
  /-- The listener that was started last. -/
  listener : Option Listener
  trace : List Event
  log : List LogEntry

namespace World

/-- Nothing will happen by itself, and any wait can be had. -/
def quiet (clock : Binary64) (entropy : Entropy) : World :=
  ⟨clock, entropy, [], [], [], .infinite false, false, none, [], []⟩

def record (world : World) (event : Event) : World :=
  { world with trace := world.trace ++ [event] }

def note (world : World) (level : Level) (source : Source) (message : String) : World :=
  { world with log := world.log ++ [⟨level, source, message⟩] }

/-- The clock moves on. -/
def pass (world : World) (seconds : Binary64) : World :=
  { world with clock := world.clock.add seconds }

end World

/-! ## Actions -/

/-- A function of a state that gives a value or a fault, and the state after. -/
def Act (σ α : Type) : Type := σ → Except Fault α × σ

namespace Act

variable {σ α β : Type}

instance : Monad (Act σ) where
  pure value := fun state => (.ok value, state)
  bind action next := fun state =>
    match action state with
    | (.ok value, state) => next value state
    | (.error fault, state) => (.error fault, state)

theorem pure_apply (value : α) (state : σ) : (pure value : Act σ α) state = (.ok value, state) :=
  rfl

theorem bind_apply (action : Act σ α) (next : α → Act σ β) (state : σ) :
    (action >>= next) state =
      match action state with
      | (.ok value, state) => next value state
      | (.error fault, state) => (.error fault, state) := rfl

def raise (fault : Fault) : Act σ α := fun state => (.error fault, state)

def fail (failure : Failure) : Act σ α := raise (.failure failure)

def get : Act σ σ := fun state => (.ok state, state)

def update (change : σ → σ) : Act σ Unit := fun state => (.ok (), change state)

/-- A change of the state that also has a result. -/
def step (change : σ → α × σ) : Act σ α := fun state =>
  let (value, state) := change state
  (.ok value, state)

/-- A value, or a fault in its place. -/
def lift (result : Except Fault α) : Act σ α := fun state => (result, state)

/-- Runs the second action whatever the first one comes to. -/
def thenAlways (action : Act σ α) (last : σ → σ) : Act σ α := fun state =>
  let (result, state) := action state
  (result, last state)

/-- Tells faults in other words. -/
def mapFault (change : Fault → Fault) (action : Act σ α) : Act σ α := fun state =>
  let (result, state) := action state
  (result.mapError change, state)

/-- Flow failures become values; every other fault stays one. -/
def attempt (action : Act σ α) : Act σ (Except Failure α) := fun state =>
  match action state with
  | (.ok value, state) => (.ok (.ok value), state)
  | (.error (.failure failure), state) => (.ok (.error failure), state)
  | (.error fault, state) => (.error fault, state)

/-- An amount as a double, unless it is beyond all of them. -/
def seconds (amount : Amount) : Act σ Binary64 :=
  match amount.toBinary64? with
  | some x => pure x
  | none => raise .overflow

end Act

/-- An action on the world alone. -/
abbrev WorldAct (α : Type) := Act World α

namespace World

def emit (event : Event) : WorldAct Unit :=
  Act.update (·.record event)

def write (level : Level) (source : Source) (message : String) : WorldAct Unit :=
  Act.update (·.note level source message)

/-- Random octets. -/
def draw (count : Nat) : WorldAct (List UInt8) :=
  Act.step fun world =>
    let (octets, entropy) := world.entropy.draw count
    (octets, { world with entropy })

/-- Numbers below a bound, chosen at random. -/
def pick (bound : Nat) (positive : 0 < bound) (count : Nat) : WorldAct (List (Fin bound)) :=
  Act.step fun world =>
    let (chosen, entropy) := world.entropy.pick bound positive count
    (chosen, { world with entropy })

/-- Lets an amount of time pass; the clock never goes back by waiting. -/
def elapse (amount : Amount) : WorldAct Unit := fun world =>
  match amount.elapsed? with
  | some seconds => (.ok (), world.pass seconds)
  | none => (.error .overflow, world)

/-- Waits without watching anything. -/
def sleep (amount : Amount) : WorldAct Unit := do
  emit (.sleep amount)
  elapse amount

theorem elapse_replies (amount : Amount) (world : World) :
    (elapse amount world).2.replies = world.replies := by
  unfold elapse
  split <;> rfl

theorem sleep_replies {amount : Amount} {world after : World} {result : Except Fault Unit}
    (h : sleep amount world = (result, after)) : after.replies = world.replies := by
  have elapsed := elapse_replies amount (world.record (.sleep amount))
  simp only [sleep, Act.bind_apply, emit, Act.update] at h
  rw [h] at elapsed
  exact elapsed

end World

end TokenFlow
