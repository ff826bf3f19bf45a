import RelayQuality.Fault
import RelayQuality.Monitor.Operation
import RelayQuality.Probe.Transport

/-!
# A monitor on virtual time

A `Timeline` is a running monitor with a clock that jumps from one due moment to the next, and a plan
of how each address answers its probes. Of what is due at one moment, answers come before alarms.
-/

namespace RelayQuality

/-- What becomes of one probe. -/
inductive Answer where
  /-- The answer comes so many milliseconds after the probe. -/
  | after (ms : Nat)
  | silence
  /-- The transport fails at once. -/
  | failure (text : String)
deriving DecidableEq, Repr, Inhabited

/-- The answers of an address to its probes from now on; the last one repeats. -/
structure AnswerPlan where
  address : Address
  answers : List Answer
deriving DecidableEq, Repr, Inhabited

namespace AnswerPlan

def rest (plan : AnswerPlan) : AnswerPlan :=
  match plan.answers with
  | _ :: next :: later => { plan with answers := next :: later }
  | _ => plan

/-- The answer of an address to its next probe. -/
def answer (plans : List AnswerPlan) (address : Address) : Answer :=
  ((plans.find? (·.address == address)).bind fun plan => plan.answers.head?).getD .silence

end AnswerPlan

/-- News that reaches the monitor at a time. -/
structure Arrival where
  time : Nat
  event : TransportEvent
deriving DecidableEq, Repr, Inhabited

/-- A running monitor with its world. -/
structure Timeline where
  monitor : Monitor
  clock : ManualClock
  transportOpens : Bool := true
  plans : List AnswerPlan := []
  /-- News on its way, in the order of departure. -/
  arrivals : List Arrival := []
  isRunning : Bool := true
  /-- Someone reports the state of the tunnel. -/
  tunnelReported : Bool := true
  /-- Someone reports the state of the application. -/
  applicationReported : Bool := true

namespace Timeline

def surroundings (t : Timeline) : Surroundings := ⟨t.clock.reading, t.transportOpens⟩

/-- The arrival that a transmission leads to. -/
def arrival? (generation : Nat) (dispatch : Dispatch) (time : Nat) : Answer → Option Arrival
  | .after ms => some ⟨time + ms, generation, .reply dispatch.sequence⟩
  | .silence => none
  | .failure text => some ⟨time, generation, .failure text⟩

def dispatched (t : Timeline) (generation : Nat) (dispatch : Dispatch) (time : Nat) : Timeline :=
  let answer := AnswerPlan.answer t.plans dispatch.target
  { t with
    plans := t.plans.map fun plan => if plan.address = dispatch.target then plan.rest else plan
    arrivals := t.arrivals ++ (arrival? generation dispatch time answer).toList }

/-- Put the next state of the monitor into place, and let the plan answer what it sent. The log of that
state has only what is new. -/
def adopt (t : Timeline) (next : Monitor) : Timeline :=
  (Effect.transmissions next.log).foldl
    (fun t (generation, dispatch, time) => t.dispatched generation dispatch time)
    { t with monitor := { next with log := next.log ++ t.monitor.log } }

def perform (t : Timeline) (operation : Monitor.Operation) : Timeline :=
  t.adopt ({ t.monitor with log := [] }.step t.surroundings operation)

/-! ### Passing time -/

/-- The first of the soonest arrivals, and the others. -/
def nextArrival? (t : Timeline) : Option (Arrival × List Arrival) := do
  let soonest ← (t.arrivals.map Arrival.time).min?
  let arrival ← t.arrivals.find? (·.time == soonest)
  some (arrival, t.arrivals.eraseP (·.time == soonest))

/-- The next moment at which something is due. -/
def nextDue? (t : Timeline) : Option Nat :=
  [t.nextArrival?.map (·.1.time), t.monitor.nextDeadline?].filterMap id |>.min?

def moved (t : Timeline) (now : Nat) : Timeline := { t with clock := t.clock.set now }

/-- Deliver what is due now: an arrival, or else the alarms. -/
def deliver (t : Timeline) : Timeline :=
  match t.nextArrival? with
  | some (arrival, others) =>
    if arrival.time ≤ t.clock.millis then { t with arrivals := others }.perform (.hear arrival.event)
    else t.perform .ring
  | none => t.perform .ring

/-- Deliver one thing after another until a time, at most `fuel` of them. -/
def play (target : Nat) : Nat → Timeline → Timeline
  | 0, t => t.moved target
  | fuel + 1, t =>
    match t.nextDue? with
    | none => t.moved target
    | some due =>
      if due ≤ target then play target fuel (t.moved (max due t.clock.millis)).deliver else t.moved target

/-- More things than can be due at one moment. -/
def bustle (t : Timeline) : Nat :=
  t.arrivals.length + (t.monitor.catalog.keys.length + t.monitor.sweep.total + 4) * (t.monitor.config.maxRetries + 3)

/-- Let milliseconds pass, and deliver everything that is due up to the end of them. -/
def pass (t : Timeline) (ms : Nat) : Timeline :=
  let target := t.clock.millis + ms
  if t.isRunning then t.play target ((ms + 1) * t.bustle) else t.moved target

/-! ### Requests -/

/-- Begin to run with reports of the tunnel and the application. -/
def launch (t : Timeline) (tunnel : Tunnel) (application : Application) : Timeline :=
  let t := t.perform .activate
  let t := if tunnel = .off then t else t.perform (.setTunnel tunnel)
  if application = .foreground then t else t.perform (.setApplication application)

/-- Ask for an operation, which only a running monitor performs. -/
def request (t : Timeline) (operation : Monitor.Operation) : Except Fault Timeline :=
  if t.isRunning then .ok (t.perform operation) else .error .serviceClosed

/-- Put other countries into the catalog, and tell the monitor if it is running. -/
def replaceCatalog (t : Timeline) (countries : List Country) : Timeline × Except Fault Unit :=
  let t := { t with monitor := t.monitor.replaceCatalog countries }
  match t.request .catalogChanged with
  | .ok later => (later, .ok ())
  | .error fault => (t, .error fault)

/-- Suppress or lift every relay of a city. The result begins with whether there is such a city. -/
def setCityCooldown (t : Timeline) (country code : String) (timeout : Int) : Except Fault (Bool × Timeline) :=
  (t.request (.setCityCooldown country code timeout)).map fun later =>
    ((t.monitor.cityWithCode? country code).isSome, later)

def multiHop (t : Timeline) (exit entry : String × String) : Except Fault Grade :=
  if t.isRunning then .ok (t.monitor.multiHop t.clock.reading exit entry) else .error .serviceClosed

/-- Report the state of the tunnel; the result begins with whether the report was taken. -/
def reportTunnel (t : Timeline) (tunnel : Tunnel) : Bool × Timeline :=
  if t.isRunning && t.tunnelReported then (true, t.perform (.setTunnel tunnel)) else (false, t)

/-- Report the state of the application; the result begins with whether the report was taken. -/
def reportApplication (t : Timeline) (application : Application) : Bool × Timeline :=
  if t.isRunning && t.applicationReported then (true, t.perform (.setApplication application)) else (false, t)

def cancel (t : Timeline) : Timeline :=
  if t.isRunning then { t.perform .shutdown with isRunning := false } else t

structure Status where
  phase : Phase
  progress : Progress
  /-- The mean of all samples. -/
  average : Nat
deriving DecidableEq, Repr

def status (t : Timeline) : Except Fault Status :=
  if t.isRunning then .ok ⟨t.monitor.phase, t.monitor.progress, t.monitor.samples.average⟩
  else .error .serviceClosed

/-- Deliver one thing after another, at most `fuel` of them, until no sweep is running. -/
def untilIdle : Nat → Timeline → Timeline
  | 0, t => t
  | fuel + 1, t =>
    if t.monitor.hasTransport then
      match t.nextDue? with
      | none => t
      | some due => untilIdle fuel (t.moved (max due t.clock.millis)).deliver
    else t

def finishSweep (t : Timeline) : Timeline := t.untilIdle (4 * t.bustle)

end Timeline

end RelayQuality
