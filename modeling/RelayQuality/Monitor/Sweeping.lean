import RelayQuality.Monitor.State
import RelayQuality.Probe.Transport

/-!
# Sweeps of the monitor

`start` begins a sweep, `tick` carries it on, `stop` ends it and sets the alarm for the next. While the
monitor is held back, `start` only remembers that a sweep is wanted.
-/

namespace RelayQuality.Monitor

/-! ### Ratings -/

def rated (m : Monitor) (now : Int) (city : City) : City :=
  m.rating.updated m.origin m.samples m.cooldowns now city

def rerateCity (m : Monitor) (now : Reading) (p : Position) : Monitor :=
  { m with catalog := m.catalog.modifyCity p (m.rated now.epoch) }.markChanged now.millis

/-- Rate the city of a relay again, if the catalog has the relay. -/
def rerateKey (m : Monitor) (now : Reading) (key : String) : Monitor :=
  match m.catalog.positionOf? key with
  | some p => m.rerateCity now p
  | none => m

def rerateAll (m : Monitor) (now : Reading) : Monitor :=
  { m with catalog := m.catalog.mapCities (m.rated now.epoch) }.markChanged now.millis

/-- Keep a round trip and rate the city of its relay again. -/
def recordLatency (m : Monitor) (now : Reading) (key : String) (ms : Nat) : Monitor :=
  { m with samples := m.samples.record key ms }.rerateKey now key

/-- Forget all round trips. The cities keep what they were given. -/
def clear (m : Monitor) : Monitor := { m with samples := .empty }.announce

/-! ### The end of a sweep -/

def halt (m : Monitor) : Monitor :=
  { m with
    alarms.probe := none
    alarms.progress := none
    sweep := m.sweep.clear
    hasTransport := false }.announce

/-- End the sweep, and set the alarm for the next unless it is set. -/
def stop (m : Monitor) (now : Reading) : Monitor :=
  let halted := m.halt
  if halted.enabled && halted.alarms.refresh.isNone then
    halted.armRefresh now.millis halted.config.refreshInterval
  else halted

/-! ### The course of a sweep -/

/-- Look for timeouts and send again what is due. -/
def expire (m : Monitor) (now : Nat) : Monitor :=
  let found := m.sweep.expire now
  { m with sweep := found.2 }.transmit now found.1.retried

/-- Send queued probes as far as the table has room. -/
def fill (m : Monitor) (now : Nat) : Monitor :=
  let sent := m.sweep.fill now
  { m with sweep := sent.2 }.transmit now sent.1

/-- Set the alarm for the oldest probe in flight; without one the sweep is over. -/
def awaitTimeout (m : Monitor) (now : Reading) : Monitor :=
  match m.sweep.nextTimeout? now.millis with
  | some delay => { m with alarms.probe := some (Millis.add now.millis delay) }
  | none => m.stop now

/-- Carry the sweep on: look for timeouts, fill the table, and wait for the next timeout. -/
def tick (m : Monitor) (now : Reading) : Monitor :=
  if m.hasTransport then
    (((m.expire now.millis).fill now.millis).markChanged now.millis).awaitTimeout now
  else m

/-- The distance of a city, zero without an observer. -/
def distanceOf (m : Monitor) (city : City) : Distance :=
  match m.observer with
  | some o => .ofFloat (o.distanceTo city.place)
  | none => .ofFloat 0.0

def probesOf (m : Monitor) (city : City) : List Probe :=
  city.relays.map fun relay =>
    { key := relay.key, country := city.country, city := city.name
      target := relay.address, distance := m.distanceOf city }

/-- A probe for every relay, in catalog order. -/
def roster (m : Monitor) : List Probe := m.catalog.cities.flatMap m.probesOf

/-- Prepare a sweep over the whole catalog under a new generation. -/
def prepared (m : Monitor) : Monitor :=
  { m with wantsSweep := false, sweep := m.sweep.load m.roster, generation := m.generation + 1 }

/-- The prepared sweep with its transport open. -/
def opened (m : Monitor) : Monitor :=
  { m with hasTransport := true, alarms.refresh := none, alarms.progress := none }.emit (.opened m.generation)

/-- Begin a sweep over the whole catalog. Nothing happens during a sweep; a monitor that is switched
off forgets its round trips, and one that is held back remembers the wish. -/
def start (m : Monitor) (s : Surroundings) : Monitor :=
  if !m.enabled then m.clear
  else if m.isHeld then { m with wantsSweep := true }
  else if m.hasTransport then m
  else if s.transportOpens then m.prepared.opened.announce.tick s.now
  else m.prepared.stop s.now

/-- Forget all round trips and sweep again, except during a sweep. -/
def refresh (m : Monitor) (s : Surroundings) : Monitor :=
  if m.hasTransport then m else m.clear.start s

/-! ### Answers -/

/-- Match an answer to its probe and keep the round trip. -/
def hearReply (m : Monitor) (now : Reading) (sequence : UInt16) : Monitor :=
  if m.hasTransport then
    match m.sweep.takeReply sequence now.millis with
    | none => m
    | some (reply, rest) =>
      ({ m with sweep := rest }.recordLatency now reply.probe.key reply.latency).tick now
  else m

/-- Hear news of a transport. Only news of the present sweep counts, and a failure leaves the sweep to
its timeouts. -/
def hear (m : Monitor) (now : Reading) (event : TransportEvent) : Monitor :=
  if event.generation = m.generation ∧ m.hasTransport then
    match event.news with
    | .reply sequence => m.hearReply now sequence
    | .failure _ => m
  else m

end RelayQuality.Monitor
