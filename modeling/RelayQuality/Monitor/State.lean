import RelayQuality.Alarms
import RelayQuality.Monitor.Lifecycle
import RelayQuality.Rating
import RelayQuality.Time.Clock

/-!
# The state of the monitor

`Monitor` is one value: settings, catalog, the running sweep, what was measured, and the alarms. What
it does to the world is written to its log, newest first.
-/

namespace RelayQuality

inductive Effect where
  | opened (generation : Nat)
  | sent (generation : Nat) (dispatch : Dispatch) (time : Nat)
  | announced (notice : Notice)
deriving DecidableEq, Repr, Inhabited

/-- What an operation finds around it. -/
structure Surroundings where
  now : Reading
  transportOpens : Bool := true
deriving DecidableEq, Repr, Inhabited

structure Monitor where
  config : Config
  catalog : Catalog
  /-- The number of sweeps begun; news from the transports of others is ignored. -/
  generation : Nat := 0
  /-- A transport is open; so it is exactly during a sweep. -/
  hasTransport : Bool := false
  sweep : Sweep
  samples : Samples := .empty
  cooldowns : Cooldowns := .empty
  observer : Option Observer := none
  enabled : Bool
  tunnel : Tunnel := .off
  application : Application := .foreground
  /-- A sweep was asked for while the monitor was held back. -/
  wantsSweep : Bool := false
  alarms : Alarms := {}
  log : List Effect := []
deriving Inhabited

namespace Monitor

/-- The monitor of a catalog before its first operation. -/
def ofConfig (config : Config) (catalog : Catalog) : Monitor :=
  { config, catalog
    sweep := { pace := .ofLimits config.probeTimeout config.maxParallel config.maxRetries }
    enabled := config.enabled }

def rating (m : Monitor) : Rating := .ofConfig m.config

/-- The country of the observer, empty if there is none. -/
def origin (m : Monitor) : String := (m.observer.map Observer.country).getD ""

/-- Tunnel or application hold the monitor back. -/
def isHeld (m : Monitor) : Bool := m.tunnel == .active || m.application == .background

def phase (m : Monitor) : Phase := if m.hasTransport then .sweeping else if m.isHeld then .suspended else .idle

/-- How much of the sweep is left; without a sweep there is nothing to do. -/
def progress (m : Monitor) : Progress := if m.hasTransport then m.sweep.progress else .complete

/-- What the monitor would announce now. -/
def notice (m : Monitor) : Notice := ⟨m.progress, m.phase⟩

def emit (m : Monitor) (effect : Effect) : Monitor := { m with log := effect :: m.log }

def announce (m : Monitor) : Monitor := m.emit (.announced m.notice)

def transmit (m : Monitor) (now : Nat) (dispatches : List Dispatch) : Monitor :=
  { m with log := (dispatches.map fun d => Effect.sent m.generation d now).reverse ++ m.log }

/-- Announce a change after the delay that collects changes, unless that is already under way. -/
def markChanged (m : Monitor) (now : Nat) : Monitor :=
  match m.alarms.progress with
  | some _ => m
  | none => { m with alarms.progress := some (Millis.add now m.config.progressDelay.millis) }

/-- Set the alarm for the next sweep. -/
def armRefresh (m : Monitor) (now : Nat) (delay : Duration) : Monitor :=
  { m with alarms.refresh := some (Millis.add now delay.millis) }

/-- Milliseconds until a second of the epoch, counted in whole seconds. -/
def millisUntil (now second : Int) : Nat := Millis.mul (Epoch.sub second now).toNat 1000

/-- Set the alarm for the soonest end of a cooldown. -/
def armCooldown (m : Monitor) (now : Reading) : Monitor :=
  { m with alarms.cooldown := m.cooldowns.nextEnd?.map fun second =>
      Millis.add now.millis (millisUntil now.epoch second) }

end Monitor

end RelayQuality
