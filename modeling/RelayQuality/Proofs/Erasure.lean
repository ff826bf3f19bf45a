import RelayQuality.Proofs.Places
import RelayQuality.Proofs.Run
import RelayQuality.Proofs.Sampling

/-!
# Cooldowns do not steer probing

`Conduct` is the monitor without cooldowns, kept ratings, notices and their alarms. Operations on cooldowns leave it
alone, and what any operation makes of it depends on it alone (`step_conduct`). So a run without the operations on
cooldowns ends with the same conduct.
-/

namespace RelayQuality

/-- The city without what ratings keep there. -/
def City.unrated (city : City) : City := { city with latency := 0, grade := .noData }

namespace Catalog

/-- The catalog without what ratings keep there. -/
def unrated (c : Catalog) : Catalog := c.mapCities City.unrated

theorem unrated_modifyCity (c : Catalog) (p : Position) {change : City → City}
    (rates : ∀ city, (change city).unrated = city.unrated) : (c.modifyCity p change).unrated = c.unrated := by
  unfold unrated mapCities modifyCity
  congr 1
  apply map_modify_of_same
  intro country
  simp only [map_modify_of_same rates]

theorem unrated_mapCities (c : Catalog) {change : City → City}
    (rates : ∀ city, (change city).unrated = city.unrated) : (c.mapCities change).unrated = c.unrated := by
  simp [unrated, mapCities, rates]

theorem cities_mapCities (c : Catalog) (change : City → City) : (c.mapCities change).cities = c.cities.map change := by
  simp [cities, mapCities, List.flatMap_map, List.map_flatMap]

end Catalog

/-- The part of the monitor that cooldowns do not reach. -/
structure Conduct where
  control : Control
  samples : Samples
  observer : Option Observer
  catalog : Catalog

namespace Monitor

variable {m n : Monitor}

/-- The part of the monitor that cooldowns do not reach. -/
def conduct (m : Monitor) : Conduct := ⟨m.control, m.samples, m.observer, m.catalog.unrated⟩

/-! ### What leaves it alone -/

@[simp] theorem conduct_armCooldown (m : Monitor) (now : Reading) : (m.armCooldown now).conduct = m.conduct := rfl

@[simp] theorem conduct_rerateCity (m : Monitor) (now : Reading) (p : Position) :
    (m.rerateCity now p).conduct = m.conduct := by
  have catalog : (m.catalog.modifyCity p (m.rated now.epoch)).unrated = m.catalog.unrated :=
    Catalog.unrated_modifyCity _ _ fun _ => rfl
  rw [conduct, control_rerateCity, rerateCity_eq]
  simp only [conduct, catalog]

@[simp] theorem conduct_rerateKey (m : Monitor) (now : Reading) (key : String) :
    (m.rerateKey now key).conduct = m.conduct := by
  unfold rerateKey
  split
  · exact conduct_rerateCity m now _
  · rfl

@[simp] theorem conduct_rerateAll (m : Monitor) (now : Reading) : (m.rerateAll now).conduct = m.conduct := by
  have catalog : (m.catalog.mapCities (m.rated now.epoch)).unrated = m.catalog.unrated :=
    Catalog.unrated_mapCities _ fun _ => rfl
  rw [conduct, control_rerateAll, rerateAll, markChanged_eq]
  simp only [conduct, catalog]

@[simp] theorem conduct_setCooldown (m : Monitor) (now : Reading) (key : String) (timeout : Int) :
    (m.setCooldown now key timeout).conduct = m.conduct := conduct_rerateKey _ now key

@[simp] theorem conduct_suppressCity (m : Monitor) (now : Reading) (p : Position) (city : City) (timeout : Int) :
    (m.suppressCity now p city timeout).conduct = m.conduct := by
  have catalog : (m.catalog.modifyCity p fun city => { city with grade := .unavailable }).unrated = m.catalog.unrated :=
    Catalog.unrated_modifyCity _ _ fun _ => rfl
  rw [conduct, suppressCity, control_markChanged, markChanged_eq]
  simp only [conduct, catalog]
  rfl

@[simp] theorem conduct_setCityCooldown (m : Monitor) (now : Reading) (country code : String) (timeout : Int) :
    (m.setCityCooldown now country code timeout).2.conduct = m.conduct := by
  unfold setCityCooldown
  split
  · rfl
  next p city _ =>
    dsimp only
    rw [conduct_armCooldown]
    split
    · exact conduct_rerateCity _ now p
    · exact conduct_suppressCity m now p city timeout

@[simp] theorem conduct_clearExpiredCooldowns (m : Monitor) (now : Reading) :
    (m.clearExpiredCooldowns now).conduct = m.conduct := by
  refine (conduct_armCooldown _ now).trans ?_
  exact rerateKeys_keep (I := fun n => n.conduct = m.conduct) (conduct_rerateKey _ _ _).trans _ rfl

/-! ### Sweeps -/

theorem control_stop (m : Monitor) (now : Reading) :
    (m.stop now).control =
      { m.control with
        hasTransport := false
        sweep := m.control.sweep.clear
        probe := none
        refresh :=
          if m.control.enabled && m.control.refresh.isNone then
            some (Millis.add now.millis m.control.config.refreshInterval.millis)
          else m.control.refresh } := by
  rw [stop_eq]
  rfl

theorem control_advanced (m : Monitor) (now : Nat) :
    (m.advanced now).control =
      { m.control with
        sweep := m.control.sweep.advanced now
        traffic := ((m.control.sweep.sends now).map fun d => Effect.sent m.control.generation d now).reverse ++
          m.control.traffic } := by
  have sent : ∀ dispatches : List Dispatch,
      (dispatches.map fun d => Effect.sent m.generation d now).filter Effect.isTraffic =
        dispatches.map fun d => Effect.sent m.generation d now := by
    intro dispatches
    apply List.filter_eq_self.mpr
    intro effect made
    obtain ⟨d, _, rfl⟩ := List.mem_map.mp made
    rfl
  rw [advanced_eq]
  simp only [control, List.filter_append, List.filter_reverse, sent]

theorem stop_control (now : Reading) (same : m.control = n.control) : (m.stop now).control = (n.stop now).control := by
  rw [control_stop, control_stop, same]

theorem awaitTimeout_control (now : Reading) (same : m.control = n.control) :
    (m.awaitTimeout now).control = (n.awaitTimeout now).control := by
  have next : m.sweep.nextTimeout? now.millis = n.sweep.nextTimeout? now.millis :=
    congrArg (fun c => c.sweep.nextTimeout? now.millis) same
  unfold awaitTimeout
  rw [next]
  split
  next delay _ => exact congrArg (fun c => { c with probe := some (Millis.add now.millis delay) }) same
  next => exact stop_control now same

theorem tick_control (now : Reading) (same : m.control = n.control) : (m.tick now).control = (n.tick now).control := by
  have transport : m.hasTransport = n.hasTransport := congrArg Control.hasTransport same
  have advanced : (m.advanced now.millis).control = (n.advanced now.millis).control := by
    rw [control_advanced, control_advanced, same]
  unfold tick
  rw [transport]
  split
  · exact awaitTimeout_control now advanced
  · exact same

theorem conduct_of_frame {k l : Monitor} (same : m.conduct = n.conduct) (control : k.control = l.control)
    (left : k.samples = m.samples ∧ k.frame = m.frame) (right : l.samples = n.samples ∧ l.frame = n.frame) :
    k.conduct = l.conduct := by
  obtain ⟨samples, frame⟩ := left
  obtain ⟨samples', frame'⟩ := right
  have catalog : k.catalog = m.catalog := congrArg Frame.catalog frame
  have catalog' : l.catalog = n.catalog := congrArg Frame.catalog frame'
  have observer : k.observer = m.observer := congrArg Frame.observer frame
  have observer' : l.observer = n.observer := congrArg Frame.observer frame'
  simp only [conduct, Conduct.mk.injEq] at same ⊢
  rw [samples, samples', catalog, catalog', observer, observer']
  exact ⟨control, same.2⟩

theorem stop_conduct (now : Reading) (same : m.conduct = n.conduct) : (m.stop now).conduct = (n.stop now).conduct :=
  conduct_of_frame same (stop_control now (congrArg Conduct.control same))
    ⟨stop_samples m now, frame_stop m now⟩ ⟨stop_samples n now, frame_stop n now⟩

theorem tick_conduct (now : Reading) (same : m.conduct = n.conduct) : (m.tick now).conduct = (n.tick now).conduct :=
  conduct_of_frame same (tick_control now (congrArg Conduct.control same))
    ⟨tick_samples m now, frame_tick m now⟩ ⟨tick_samples n now, frame_tick n now⟩

theorem clear_conduct (same : m.conduct = n.conduct) : m.clear.conduct = n.clear.conduct :=
  congrArg (fun c => { c with samples := .empty }) same

/-- The probes of a sweep depend on keys, names, addresses and places of the catalog. -/
theorem roster_eq (same : m.conduct = n.conduct) : m.roster = n.roster := by
  have unrated : ∀ k : Monitor, k.roster = k.catalog.unrated.cities.flatMap k.probesOf := by
    intro k
    rw [Catalog.unrated, Catalog.cities_mapCities, List.flatMap_map]
    rfl
  have probes : m.probesOf = n.probesOf := by
    have observer : m.observer = n.observer := congrArg Conduct.observer same
    funext city
    simp only [probesOf, distanceOf, observer]
  have catalog : m.catalog.unrated = n.catalog.unrated := congrArg Conduct.catalog same
  rw [unrated m, unrated n, probes, catalog]

theorem prepared_conduct (same : m.conduct = n.conduct) : m.prepared.conduct = n.prepared.conduct := by
  have control : m.prepared.control =
      { m.control with
        wantsSweep := false
        sweep := m.control.sweep.load m.roster
        generation := m.control.generation + 1 } := rfl
  have control' : n.prepared.control =
      { n.control with
        wantsSweep := false
        sweep := n.control.sweep.load n.roster
        generation := n.control.generation + 1 } := rfl
  refine conduct_of_frame same ?_ ⟨rfl, rfl⟩ ⟨rfl, rfl⟩
  rw [control, control', roster_eq same, show m.control = n.control from congrArg Conduct.control same]

theorem opened_conduct (same : m.conduct = n.conduct) : m.opened.conduct = n.opened.conduct :=
  congrArg (fun c => { c with control := { c.control with
    hasTransport := true
    refresh := none
    traffic := .opened c.control.generation :: c.control.traffic } }) same

theorem start_conduct (s : Surroundings) (same : m.conduct = n.conduct) :
    (m.start s).conduct = (n.start s).conduct := by
  have control : m.control = n.control := congrArg Conduct.control same
  have off : (!m.enabled) = !n.enabled := congrArg (fun c => !c.enabled) control
  have held : m.isHeld = n.isHeld := isHeld_of_control control
  have transport : m.hasTransport = n.hasTransport := congrArg Control.hasTransport control
  unfold start
  rw [off]
  split
  · exact clear_conduct same
  rw [held]
  split
  · exact congrArg (fun c => { c with control := { c.control with wantsSweep := true } }) same
  rw [transport]
  split
  · exact same
  split
  · exact tick_conduct s.now (opened_conduct (m := m.prepared) (n := n.prepared) (prepared_conduct same))
  · exact stop_conduct s.now (prepared_conduct same)

theorem refresh_conduct (s : Surroundings) (same : m.conduct = n.conduct) :
    (m.refresh s).conduct = (n.refresh s).conduct := by
  have transport : m.hasTransport = n.hasTransport := congrArg (fun c => c.control.hasTransport) same
  unfold refresh
  rw [transport]
  split
  · exact same
  · exact start_conduct s (clear_conduct same)

/-! ### Answers and samples -/

theorem recordLatency_conduct (now : Reading) (key : String) (ms : Nat) (same : m.conduct = n.conduct) :
    (m.recordLatency now key ms).conduct = (n.recordLatency now key ms).conduct := by
  rw [recordLatency, recordLatency, conduct_rerateKey, conduct_rerateKey]
  exact congrArg (fun c => { c with samples := c.samples.record key ms }) same

theorem hearReply_conduct (now : Reading) (k : UInt16) (same : m.conduct = n.conduct) :
    (m.hearReply now k).conduct = (n.hearReply now k).conduct := by
  have busy : (m.hasTransport = true) = (n.hasTransport = true) :=
    congrArg (fun c => c.control.hasTransport = true) same
  have taken : m.sweep.takeReply k now.millis = n.sweep.takeReply k now.millis :=
    congrArg (fun c => c.control.sweep.takeReply k now.millis) same
  unfold hearReply
  rw [taken]
  simp only [busy]
  split
  · split
    · exact same
    next reply rest _ =>
      refine tick_conduct now (recordLatency_conduct now _ _ ?_)
      exact congrArg (fun c => { c with control := { c.control with sweep := rest } }) same
  · exact same

theorem hear_conduct (now : Reading) (event : TransportEvent) (same : m.conduct = n.conduct) :
    (m.hear now event).conduct = (n.hear now event).conduct := by
  have generation : m.generation = n.generation := congrArg (fun c => c.control.generation) same
  obtain ⟨g, k | text⟩ := event
  · rw [hear_reply, hear_reply, generation]
    split
    · exact hearReply_conduct now k same
    · exact same
  · rw [hear_failure, hear_failure]
    exact same

/-! ### Alarms -/

theorem probeRung_conduct (s : Surroundings) (same : m.conduct = n.conduct) :
    (m.probeRung s).conduct = (n.probeRung s).conduct := by
  have probe : m.alarms.probe = n.alarms.probe := congrArg (fun c => c.control.probe) same
  have rested : conduct { m with alarms := m.alarms.afterRinging s.now.millis } =
      conduct { n with alarms := n.alarms.afterRinging s.now.millis } :=
    congrArg (fun c => { c with control := { c.control with
      probe := Alarms.rest c.control.probe s.now.millis
      refresh := Alarms.rest c.control.refresh s.now.millis } }) same
  unfold probeRung
  rw [probe]
  split
  · exact tick_conduct s.now rested
  · exact rested

theorem sweepRung_conduct (s : Surroundings) (same : m.conduct = n.conduct) :
    (m.sweepRung s).conduct = (n.sweepRung s).conduct := by
  have refresh : m.alarms.refresh = n.alarms.refresh := congrArg (fun c => c.control.refresh) same
  unfold sweepRung
  rw [refresh]
  split
  · exact start_conduct s (probeRung_conduct s same)
  · exact probeRung_conduct s same

/-- The alarms for cooldowns and notices ring for work that leaves the conduct alone. -/
theorem conduct_ring (m : Monitor) (s : Surroundings) : (m.ring s).conduct = (m.sweepRung s).conduct := by
  exact ring_keeps (I := fun n => n.conduct = (m.sweepRung s).conduct) rfl (conduct_clearExpiredCooldowns _ _).trans id

theorem ring_conduct (s : Surroundings) (same : m.conduct = n.conduct) : (m.ring s).conduct = (n.ring s).conduct := by
  rw [conduct_ring, conduct_ring]
  exact sweepRung_conduct s same

/-! ### Switch, tunnel and application -/

theorem activate_conduct (now : Reading) (same : m.conduct = n.conduct) :
    (m.activate now).conduct = (n.activate now).conduct := by
  have enabled : m.enabled = n.enabled := congrArg (fun c => c.control.enabled) same
  unfold activate
  rw [enabled]
  split
  · exact congrArg (fun c => { c with control := { c.control with
      refresh := some (Millis.add now.millis c.control.config.initialDelay.millis) } }) same
  · exact same

theorem setEnabled_conduct (s : Surroundings) (enabled : Bool) (same : m.conduct = n.conduct) :
    (m.setEnabled s enabled).conduct = (n.setEnabled s enabled).conduct := by
  have switch : (m.enabled = enabled) = (n.enabled = enabled) := congrArg (fun c => c.control.enabled = enabled) same
  unfold setEnabled
  simp only [switch]
  split
  · exact same
  split
  · exact start_conduct s (congrArg (fun c => { c with control := { c.control with enabled := true } }) same)
  · exact congrArg (fun c => { c with
      samples := .empty
      control := { c.control with
        enabled := false
        hasTransport := false
        sweep := c.control.sweep.clear
        probe := none
        refresh := none
        wantsSweep := false } }) same

theorem setTunnel_conduct (s : Surroundings) (tunnel : Tunnel) (same : m.conduct = n.conduct) :
    (m.setTunnel s tunnel).conduct = (n.setTunnel s tunnel).conduct := by
  have wants : (m.wantsSweep = true) = (n.wantsSweep = true) := congrArg (fun c => c.control.wantsSweep = true) same
  have off : conduct { m with tunnel := .off } = conduct { n with tunnel := .off } :=
    congrArg (fun c => { c with control := { c.control with tunnel := .off } }) same
  cases tunnel with
  | active =>
    exact stop_conduct s.now (congrArg (fun c => { c with control := { c.control with
      tunnel := .active
      wantsSweep := c.control.wantsSweep || c.control.hasTransport } }) same)
  | off =>
    simp only [setTunnel, wants]
    split
    · exact start_conduct s off
    · exact off

theorem setApplication_conduct (s : Surroundings) (application : Application) (same : m.conduct = n.conduct) :
    (m.setApplication s application).conduct = (n.setApplication s application).conduct := by
  have busy : (m.hasTransport = true) = (n.hasTransport = true) :=
    congrArg (fun c => c.control.hasTransport = true) same
  have free : (m.wantsSweep && m.tunnel == .off) = (n.wantsSweep && n.tunnel == .off) :=
    congrArg (fun c => c.control.wantsSweep && c.control.tunnel == .off) same
  have moved : ∀ place, conduct { m with application := place } = conduct { n with application := place } :=
    fun place => congrArg (fun c => { c with control := { c.control with application := place } }) same
  cases application with
  | background =>
    simp only [setApplication, busy]
    split
    · exact stop_conduct s.now (congrArg (fun c => { c with control := { c.control with
        application := .background
        wantsSweep := true } }) same)
    · exact moved .background
  | foreground =>
    simp only [setApplication, free]
    split
    · exact refresh_conduct s (moved .foreground)
    · exact moved .foreground

/-! ### Runs -/

/-- What an operation makes of the conduct depends on the conduct alone. -/
theorem step_conduct (s : Surroundings) (op : Operation) (same : m.conduct = n.conduct) :
    (m.step s op).conduct = (n.step s op).conduct := by
  cases op with
  | activate => exact activate_conduct s.now same
  | start => exact start_conduct s same
  | stop => exact stop_conduct s.now same
  | refresh => exact refresh_conduct s same
  | clear => exact clear_conduct same
  | shutdown =>
    exact congrArg (fun c => { c with control := { c.control with
      hasTransport := false
      sweep := c.control.sweep.clear
      probe := none
      refresh := none } }) same
  | tick => exact tick_conduct s.now same
  | ring => exact ring_conduct s same
  | catalogChanged => exact start_conduct s same
  | clearExpiredCooldowns => simpa [step] using same
  | hearReply k => exact hearReply_conduct s.now k same
  | hear event => exact hear_conduct s.now event same
  | setEnabled enabled => exact setEnabled_conduct s enabled same
  | setObserver o =>
    simp only [step, setObserver, conduct_rerateAll]
    exact congrArg (fun c => { c with observer := some o }) same
  | setTunnel tunnel => exact setTunnel_conduct s tunnel same
  | setApplication application => exact setApplication_conduct s application same
  | recordLatency key ms => exact recordLatency_conduct s.now key ms same
  | setCooldown key timeout => simpa [step] using same
  | setCityCooldown country code timeout => simpa [step] using same
  | replaceCatalog countries =>
    exact congrArg (fun c => { c with catalog := (Catalog.ofCountries countries).unrated }) same

/-- The operation is about cooldowns. -/
def Operation.isCooling : Operation → Bool
  | setCooldown _ _ => true
  | setCityCooldown _ _ _ => true
  | clearExpiredCooldowns => true
  | _ => false

theorem cooling_conduct (m : Monitor) (s : Surroundings) {op : Operation} (cools : op.isCooling = true) :
    (m.step s op).conduct = m.conduct := by
  cases op with
  | setCooldown key timeout => exact conduct_setCooldown m s.now key timeout
  | setCityCooldown country code timeout => exact conduct_setCityCooldown m s.now country code timeout
  | clearExpiredCooldowns => exact conduct_clearExpiredCooldowns m s.now
  | _ => exact nomatch cools

/-- A run without its operations on cooldowns. -/
def withoutCooling (operations : List (Surroundings × Operation)) : List (Surroundings × Operation) :=
  operations.filter fun entry => !entry.2.isCooling

theorem run_conduct (same : m.conduct = n.conduct) (operations : List (Surroundings × Operation)) :
    (m.run operations).conduct = (n.run (withoutCooling operations)).conduct := by
  induction operations generalizing m n with
  | nil => exact same
  | cons entry rest ih =>
    obtain ⟨s, op⟩ := entry
    cases cools : op.isCooling with
    | true =>
      have skipped : withoutCooling ((s, op) :: rest) = withoutCooling rest := by simp [withoutCooling, cools]
      rw [run_cons, skipped]
      exact ih ((cooling_conduct m s cools).trans same)
    | false =>
      have kept : withoutCooling ((s, op) :: rest) = (s, op) :: withoutCooling rest := by simp [withoutCooling, cools]
      rw [run_cons, kept, run_cons]
      exact ih (step_conduct s op same)

/-- A run makes the transmissions, samples and next deadlines that it makes without its operations on cooldowns. -/
theorem cooldowns_never_steer_probing (config : Config) (catalog : Catalog)
    (operations : List (Surroundings × Operation)) :
    let whole := (ofConfig config catalog).run operations
    let bare := (ofConfig config catalog).run (withoutCooling operations)
    whole.log.filter Effect.isTraffic = bare.log.filter Effect.isTraffic ∧
    whole.sweep = bare.sweep ∧ whole.generation = bare.generation ∧ whole.hasTransport = bare.hasTransport ∧
    whole.samples = bare.samples ∧ whole.enabled = bare.enabled ∧ whole.tunnel = bare.tunnel ∧
    whole.application = bare.application ∧ whole.wantsSweep = bare.wantsSweep ∧ whole.phase = bare.phase ∧
    whole.alarms.probe = bare.alarms.probe ∧ whole.alarms.refresh = bare.alarms.refresh := by
  intro whole bare
  have conduct : whole.conduct = bare.conduct := run_conduct rfl operations
  have same : whole.control = bare.control := congrArg Conduct.control conduct
  have held : whole.isHeld = bare.isHeld := isHeld_of_control same
  have samples : whole.samples = bare.samples := congrArg Conduct.samples conduct
  simp only [control, Control.mk.injEq] at same
  obtain ⟨_, generation, transport, sweep, enabled, tunnel, application, wants, probe, refresh, traffic⟩ := same
  have phase : whole.phase = bare.phase := by rw [Monitor.phase, Monitor.phase, transport, held]
  exact ⟨traffic, sweep, generation, transport, samples, enabled, tunnel, application, wants, phase, probe, refresh⟩

end Monitor

end RelayQuality
