import RelayQuality.Monitor.Suppression

/-!
# Operations on the monitor

`Operation` lists everything that can happen to the monitor, `step` performs one operation, and `run`
performs a list of them, each in its own surroundings.
-/

namespace RelayQuality

namespace Monitor

/-- Set the alarm for the first sweep. -/
def activate (m : Monitor) (now : Reading) : Monitor :=
  if m.enabled then m.armRefresh now.millis m.config.initialDelay else m

def shutdown (m : Monitor) : Monitor := { m.halt with alarms := .off }

/-- Switch probing and rating on or off. -/
def setEnabled (m : Monitor) (s : Surroundings) (enabled : Bool) : Monitor :=
  if m.enabled = enabled then m
  else if enabled then { m with enabled := true }.start s
  else
    let halted := { m with enabled := false }.halt
    { halted with alarms.refresh := none, wantsSweep := false }.clear

def setObserver (m : Monitor) (now : Reading) (o : Observer) : Monitor :=
  { m with observer := some o }.rerateAll now

/-- Follow the tunnel. An active tunnel ends the sweep and keeps the wish for one. -/
def setTunnel (m : Monitor) (s : Surroundings) (tunnel : Tunnel) : Monitor :=
  match tunnel with
  | .active => { m with tunnel := .active, wantsSweep := m.wantsSweep || m.hasTransport }.stop s.now
  | .off => if m.wantsSweep then { m with tunnel := .off }.start s else { m with tunnel := .off }

/-- Follow the application. In the background a sweep ends and the wish for one is kept. -/
def setApplication (m : Monitor) (s : Surroundings) (application : Application) : Monitor :=
  match application with
  | .background =>
    if m.hasTransport then { m with application := .background, wantsSweep := true }.stop s.now
    else { m with application := .background }
  | .foreground =>
    if m.wantsSweep && m.tunnel == .off then { m with application := .foreground }.refresh s
    else { m with application := .foreground }

/-- Put other countries into the catalog. The monitor is not told. -/
def replaceCatalog (m : Monitor) (countries : List Country) : Monitor :=
  { m with catalog := .ofCountries countries }

def nextDeadline? (m : Monitor) : Option Nat := m.alarms.next?

/-- Do the work of every alarm that rings. -/
def ring (m : Monitor) (s : Surroundings) : Monitor :=
  let rung := m.alarms.due s.now.millis
  let m := { m with alarms := m.alarms.afterRinging s.now.millis }
  let m := if rung.probe then m.tick s.now else m
  let m := if rung.refresh then m.start s else m
  let m := if rung.cooldown then m.clearExpiredCooldowns s.now else m
  if rung.progress then m.announce else m

/-- Everything that can happen to the monitor. -/
inductive Operation where
  | activate
  | start
  | stop
  | refresh
  | clear
  | shutdown
  | tick
  | ring
  | catalogChanged
  | clearExpiredCooldowns
  | hearReply (sequence : UInt16)
  | hear (event : TransportEvent)
  | setEnabled (enabled : Bool)
  | setObserver (observer : Observer)
  | setTunnel (tunnel : Tunnel)
  | setApplication (application : Application)
  | recordLatency (key : String) (ms : Nat)
  | setCooldown (key : String) (timeout : Int)
  | setCityCooldown (country code : String) (timeout : Int)
  | replaceCatalog (countries : List Country)

def step (m : Monitor) (s : Surroundings) : Operation → Monitor
  | .activate => m.activate s.now
  | .start => m.start s
  | .stop => m.stop s.now
  | .refresh => m.refresh s
  | .clear => m.clear
  | .shutdown => m.shutdown
  | .tick => m.tick s.now
  | .ring => m.ring s
  | .catalogChanged => m.start s
  | .clearExpiredCooldowns => m.clearExpiredCooldowns s.now
  | .hearReply sequence => m.hearReply s.now sequence
  | .hear event => m.hear s.now event
  | .setEnabled enabled => m.setEnabled s enabled
  | .setObserver observer => m.setObserver s.now observer
  | .setTunnel tunnel => m.setTunnel s tunnel
  | .setApplication application => m.setApplication s application
  | .recordLatency key ms => m.recordLatency s.now key ms
  | .setCooldown key timeout => m.setCooldown s.now key timeout
  | .setCityCooldown country code timeout => (m.setCityCooldown s.now country code timeout).2
  | .replaceCatalog countries => m.replaceCatalog countries

/-- Perform operations in order, each in its surroundings. -/
def run (m : Monitor) (operations : List (Surroundings × Operation)) : Monitor :=
  operations.foldl (fun m entry => m.step entry.1 entry.2) m

end Monitor

/-! ### Reading the log -/

namespace Effect

/-- The notices of a log, oldest first. -/
def notices (log : List Effect) : List Notice :=
  log.reverse.filterMap fun
    | .announced notice => some notice
    | _ => none

/-- The transmissions of a log, oldest first, each with its generation and time. -/
def transmissions (log : List Effect) : List (Nat × Dispatch × Nat) :=
  log.reverse.filterMap fun
    | .sent generation dispatch time => some (generation, dispatch, time)
    | _ => none

/-- The generations whose transport was opened, oldest first. -/
def openings (log : List Effect) : List Nat :=
  log.reverse.filterMap fun
    | .opened generation => some generation
    | _ => none

end Effect

end RelayQuality
