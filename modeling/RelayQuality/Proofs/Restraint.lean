import RelayQuality.Proofs.Log
import RelayQuality.Proofs.Wakefulness

/-!
# No probe where probing is forbidden

Tunnel, application and switch each forbid probing. Whatever happens, a monitor that may not probe has no
sweep, and the operation that leaves it so has sent nothing. `Restrained` holds after every operation, also
after a shutdown.
-/

namespace RelayQuality.Monitor

/-- Probing would measure the tunnel, or the application is in the background, or the monitor is off. -/
def Forbidden (m : Monitor) : Prop := m.tunnel = .active ∨ m.application = .background ∨ m.enabled = false

/-- Nothing runs or waits to run where it may not. -/
structure Restrained (m : Monitor) : Prop extends Guarded m where
  disarmed : m.enabled = false → m.alarms.refresh = none

variable {m n : Monitor}

theorem forbidden_iff : Forbidden m ↔ m.isHeld = true ∨ m.enabled = false := by
  simp only [Forbidden, isHeld, Bool.or_eq_true, beq_iff_eq, or_assoc]

theorem Guarded.still (guarded : Guarded m) (forbidden : Forbidden m) : m.hasTransport = false := by
  rcases forbidden_iff.mp forbidden with held | off
  · exact guarded.idle held
  · exact (guarded.off off).1

theorem Restrained.of_control (restrained : Restrained m) (same : n.control = m.control) : Restrained n := by
  have held := isHeld_of_control same
  simp only [control, Control.mk.injEq] at same
  obtain ⟨-, -, transport, -, enabled, -, -, wants, -, refresh, -⟩ := same
  refine ⟨⟨?_, ?_⟩, ?_⟩ <;> simp only [transport, enabled, wants, held, refresh]
  · exact restrained.permitted
  · exact restrained.wish
  · exact restrained.disarmed

theorem ofConfig_restrained (config : Config) (catalog : Catalog) : Restrained (ofConfig config catalog) :=
  ⟨⟨nofun, nofun⟩, fun _ => rfl⟩

/-! ### What stays forbidden -/

@[simp] theorem forbidden_tick (m : Monitor) (now : Reading) : Forbidden (m.tick now) ↔ Forbidden m := by
  obtain ⟨_, _, _, _, _, _, same⟩ := tick_shape m now
  rw [same]
  rfl

@[simp] theorem forbidden_start (m : Monitor) (s : Surroundings) : Forbidden (m.start s) ↔ Forbidden m := by
  obtain ⟨_, _, _, _, _, _, _, _, _, same⟩ := start_shape m s
  rw [same]
  rfl

/-! ### Nothing runs -/

theorem stop_restrained (now : Reading) (wish : m.wantsSweep = true → m.enabled = true)
    (disarmed : m.enabled = false → m.alarms.refresh = none) : Restrained (m.stop now) := by
  rw [stop_eq]
  refine ⟨⟨nofun, fun wants => ⟨wish wants, rfl⟩⟩, ?_⟩
  intro off
  have off : m.enabled = false := off
  simp [off, disarmed off]

theorem tick_restrained (now : Reading) (restrained : Restrained m) : Restrained (m.tick now) := by
  refine ⟨tick_guarded now restrained.toGuarded, ?_⟩
  rcases tick_cases m now with ⟨_, same⟩ | ⟨transport, _, same⟩ | ⟨transport, p, rest, _, same⟩
  · rw [same]
    exact restrained.disarmed
  all_goals
    obtain ⟨_, _, _, _, _, _, shape⟩ := tick_shape m now
    intro off
    have on := (restrained.permitted transport).1
    rw [shape] at off
    exact nomatch on.symm.trans off

theorem start_restrained (s : Surroundings) (restrained : Restrained m) : Restrained (m.start s) := by
  refine ⟨(start_awake s restrained.toGuarded).toGuarded, ?_⟩
  rcases start_cases m s with ⟨_, same⟩ | ⟨on, _, _⟩ | ⟨on, _, _, _⟩ | ⟨on, _, _, _⟩
  · rw [same]
    exact restrained.disarmed
  all_goals
    obtain ⟨_, _, _, _, _, _, _, _, _, shape⟩ := start_shape m s
    intro off
    rw [shape] at off
    exact nomatch on.symm.trans off

theorem refresh_restrained (s : Surroundings) (restrained : Restrained m) : Restrained (m.refresh s) := by
  rcases refresh_cases m s with ⟨_, same⟩ | ⟨_, same⟩ <;> rw [same]
  · exact restrained
  · exact start_restrained s (restrained.of_control (control_clear m))

theorem hearReply_restrained (now : Reading) (k : UInt16) (restrained : Restrained m) :
    Restrained (m.hearReply now k) := by
  rcases hearReply_cases m now k with ⟨_, same⟩ | ⟨_, p, _, _, same⟩ <;> rw [same]
  · exact restrained
  · refine tick_restrained now ?_
    refine Restrained.of_control (m := { m with sweep := m.sweep.answered p.sequence }) ?_ (control_answered m now p)
    exact ⟨⟨restrained.permitted, restrained.wish⟩, restrained.disarmed⟩

theorem hear_restrained (now : Reading) (event : TransportEvent) (restrained : Restrained m) :
    Restrained (m.hear now event) :=
  hear_keeps restrained (fun k => hearReply_restrained now k restrained) event

/-- Alarms that ring are alarms that were set. -/
theorem rested_restrained (now : Nat) (restrained : Restrained m) :
    Restrained { m with alarms := m.alarms.afterRinging now } := by
  refine ⟨⟨restrained.permitted, restrained.wish⟩, ?_⟩
  intro off
  simp [Alarms.afterRinging, Alarms.rest, restrained.disarmed off]

theorem probeRung_restrained (s : Surroundings) (restrained : Restrained m) : Restrained (m.probeRung s) := by
  unfold probeRung
  split
  · exact tick_restrained s.now (rested_restrained s.now.millis restrained)
  · exact rested_restrained s.now.millis restrained

theorem ring_restrained (s : Surroundings) (restrained : Restrained m) : Restrained (m.ring s) := by
  refine Restrained.of_control ?_ (control_ring m s)
  unfold sweepRung
  split
  · exact start_restrained s (probeRung_restrained s restrained)
  · exact probeRung_restrained s restrained

theorem setEnabled_restrained (s : Surroundings) (enabled : Bool) (restrained : Restrained m) :
    Restrained (m.setEnabled s enabled) := by
  rcases setEnabled_cases m s enabled with ⟨_, same⟩ | ⟨off, _, same⟩ | ⟨_, _, _, rfl, same⟩ <;> rw [same]
  · exact restrained
  · obtain ⟨idle, unwanted⟩ := restrained.off off
    refine start_restrained s ⟨⟨?_, ?_⟩, nofun⟩
    · intro transport
      exact nomatch idle.symm.trans transport
    · intro wants
      exact nomatch unwanted.symm.trans wants
  · exact ⟨⟨nofun, nofun⟩, fun _ => rfl⟩

theorem setTunnel_restrained (s : Surroundings) (tunnel : Tunnel) (restrained : Restrained m) :
    Restrained (m.setTunnel s tunnel) := by
  rcases setTunnel_cases m s tunnel with ⟨_, same⟩ | ⟨_, wants, same⟩ | ⟨_, _, same⟩ <;> rw [same]
  · refine stop_restrained s.now ?_ restrained.disarmed
    intro wants
    rcases Bool.or_eq_true_iff.mp wants with wants | transport
    · exact (restrained.wish wants).1
    · exact (restrained.permitted transport).1
  · have idle := (restrained.wish wants).2
    refine start_restrained s ⟨⟨?_, restrained.wish⟩, restrained.disarmed⟩
    intro transport
    exact nomatch idle.symm.trans transport
  · refine ⟨⟨?_, restrained.wish⟩, restrained.disarmed⟩
    intro transport
    obtain ⟨on, free⟩ := restrained.permitted transport
    exact ⟨on, isHeld_eq_false.mpr ⟨rfl, (isHeld_eq_false.mp free).2⟩⟩

theorem setApplication_restrained (s : Surroundings) (application : Application) (restrained : Restrained m) :
    Restrained (m.setApplication s application) := by
  rcases setApplication_cases m s application with
    ⟨_, transport, same⟩ | ⟨_, idle, same⟩ | ⟨_, wants, _, same⟩ | ⟨_, _, same⟩ <;> rw [same]
  · exact stop_restrained s.now (fun _ => (restrained.permitted transport).1) restrained.disarmed
  · refine ⟨⟨?_, restrained.wish⟩, restrained.disarmed⟩
    intro transport
    exact nomatch idle.symm.trans transport
  · have idle := (restrained.wish wants).2
    refine refresh_restrained s ⟨⟨?_, restrained.wish⟩, restrained.disarmed⟩
    intro transport
    exact nomatch idle.symm.trans transport
  · refine ⟨⟨?_, restrained.wish⟩, restrained.disarmed⟩
    intro transport
    obtain ⟨on, free⟩ := restrained.permitted transport
    exact ⟨on, isHeld_eq_false.mpr ⟨(isHeld_eq_false.mp free).1, rfl⟩⟩

theorem step_restrained (s : Surroundings) (op : Operation) (restrained : Restrained m) : Restrained (m.step s op) := by
  cases op with
  | activate =>
    rw [step, activate]
    split
    next on => exact ⟨⟨restrained.permitted, restrained.wish⟩, fun off => absurd on (Bool.eq_false_iff.mp off)⟩
    next => exact restrained
  | start => exact start_restrained s restrained
  | stop => exact stop_restrained s.now (fun wants => (restrained.wish wants).1) restrained.disarmed
  | refresh => exact refresh_restrained s restrained
  | clear => exact restrained.of_control (control_clear m)
  | shutdown =>
    refine ⟨⟨?_, fun wants => ⟨(restrained.wish wants).1, rfl⟩⟩, fun _ => rfl⟩
    exact fun transport => absurd transport Bool.false_ne_true
  | tick => exact tick_restrained s.now restrained
  | ring => exact ring_restrained s restrained
  | catalogChanged => exact start_restrained s restrained
  | clearExpiredCooldowns => exact restrained.of_control (control_clearExpiredCooldowns m s.now)
  | hearReply k => exact hearReply_restrained s.now k restrained
  | hear event => exact hear_restrained s.now event restrained
  | setEnabled enabled => exact setEnabled_restrained s enabled restrained
  | setObserver o => exact restrained.of_control (control_setObserver m s.now o)
  | setTunnel tunnel => exact setTunnel_restrained s tunnel restrained
  | setApplication application => exact setApplication_restrained s application restrained
  | recordLatency key ms => exact restrained.of_control (control_recordLatency m s.now key ms)
  | setCooldown key timeout => exact restrained.of_control (control_setCooldown m s.now key timeout)
  | setCityCooldown country code timeout =>
    exact restrained.of_control (control_setCityCooldown m s.now country code timeout)
  | replaceCatalog countries => exact restrained.of_control (control_replaceCatalog m countries)

/-! ### Nothing is sent -/

abbrev traffic (m : Monitor) : List Effect := m.control.traffic

theorem start_silent (s : Surroundings) (forbidden : Forbidden (m.start s)) : (m.start s).traffic = m.traffic := by
  rw [forbidden_start, forbidden_iff] at forbidden
  rcases start_cases m s with ⟨_, same⟩ | ⟨_, _, same⟩ | ⟨_, _, _, same⟩ | ⟨on, free, _, _⟩
  · rw [same]
    exact congrArg Control.traffic (control_clear m)
  · rw [same]
    rfl
  · rw [same]
  · rcases forbidden with held | off
    · exact nomatch free.symm.trans held
    · exact nomatch on.symm.trans off

theorem tick_silent (now : Reading) (guarded : Guarded m) (forbidden : Forbidden (m.tick now)) :
    (m.tick now).traffic = m.traffic := by
  have still := guarded.still ((forbidden_tick m now).mp forbidden)
  rw [tick, if_neg (Bool.eq_false_iff.mp still)]

theorem stop_traffic (m : Monitor) (now : Reading) : (m.stop now).traffic = m.traffic := by
  rw [stop_eq]
  rfl

theorem refresh_silent (s : Surroundings) (forbidden : Forbidden (m.refresh s)) :
    (m.refresh s).traffic = m.traffic := by
  rcases refresh_cases m s with ⟨_, same⟩ | ⟨_, same⟩ <;> rw [same] at forbidden ⊢
  rw [start_silent s forbidden]
  exact congrArg Control.traffic (control_clear m)

theorem hearReply_silent (now : Reading) (k : UInt16) (guarded : Guarded m)
    (forbidden : Forbidden (m.hearReply now k)) : (m.hearReply now k).traffic = m.traffic := by
  rcases hearReply_cases m now k with ⟨_, same⟩ | ⟨transport, p, _, _, same⟩ <;> rw [same] at forbidden ⊢
  -- an answer is only heard during a sweep, and a sweep only runs where it may
  obtain ⟨on, free⟩ := guarded.permitted transport
  have taken := control_answered m now p
  have answered : (m.answered now p).isHeld = m.isHeld :=
    isHeld_of_control (m := { m with sweep := m.sweep.answered p.sequence }) taken
  have enabled : (m.answered now p).enabled = m.enabled := congrArg Control.enabled taken
  rw [forbidden_tick, forbidden_iff, answered, enabled] at forbidden
  rcases forbidden with held | off
  · exact nomatch free.symm.trans held
  · exact nomatch on.symm.trans off

theorem hear_silent (now : Reading) (event : TransportEvent) (guarded : Guarded m)
    (forbidden : Forbidden (m.hear now event)) : (m.hear now event).traffic = m.traffic := by
  obtain ⟨g, k | text⟩ := event
  · rw [hear_reply] at forbidden ⊢
    split at forbidden
    next here =>
      rw [if_pos here]
      exact hearReply_silent now k guarded forbidden
    next elsewhere => rw [if_neg elsewhere]
  · rw [hear_failure]

theorem sweepRung_silent (s : Surroundings) (guarded : Guarded m) (forbidden : Forbidden (m.sweepRung s)) :
    (m.sweepRung s).traffic = m.traffic := by
  have probed : Forbidden (m.probeRung s) → (m.probeRung s).traffic = m.traffic := by
    unfold probeRung
    split
    · exact tick_silent (m := { m with alarms := m.alarms.afterRinging s.now.millis }) s.now
        ⟨guarded.permitted, guarded.wish⟩
    · exact fun _ => rfl
  unfold sweepRung at forbidden ⊢
  split at forbidden
  next rung =>
    rw [if_pos rung, start_silent s forbidden]
    exact probed ((forbidden_start _ s).mp forbidden)
  next early =>
    rw [if_neg early]
    exact probed forbidden

theorem forbidden_of_control (same : n.control = m.control) : Forbidden n ↔ Forbidden m := by
  have enabled : n.enabled = m.enabled := congrArg Control.enabled same
  rw [forbidden_iff, forbidden_iff, isHeld_of_control same, enabled]

theorem ring_silent (s : Surroundings) (guarded : Guarded m) (forbidden : Forbidden (m.ring s)) :
    (m.ring s).traffic = m.traffic := by
  have same := control_ring m s
  rw [traffic, same]
  exact sweepRung_silent s guarded ((forbidden_of_control same).mp forbidden)

theorem setEnabled_silent (s : Surroundings) (enabled : Bool) (forbidden : Forbidden (m.setEnabled s enabled)) :
    (m.setEnabled s enabled).traffic = m.traffic := by
  rcases setEnabled_cases m s enabled with ⟨_, same⟩ | ⟨_, _, same⟩ | ⟨_, _, _, rfl, same⟩ <;>
    rw [same] at forbidden ⊢
  · exact start_silent (m := { m with enabled := true }) s forbidden
  · rfl

theorem setTunnel_silent (s : Surroundings) (tunnel : Tunnel) (forbidden : Forbidden (m.setTunnel s tunnel)) :
    (m.setTunnel s tunnel).traffic = m.traffic := by
  rcases setTunnel_cases m s tunnel with ⟨_, same⟩ | ⟨_, _, same⟩ | ⟨_, _, same⟩ <;> rw [same] at forbidden ⊢
  · exact stop_traffic _ s.now
  · exact start_silent (m := { m with tunnel := .off }) s forbidden
  · rfl

theorem setApplication_silent (s : Surroundings) (application : Application)
    (forbidden : Forbidden (m.setApplication s application)) :
    (m.setApplication s application).traffic = m.traffic := by
  rcases setApplication_cases m s application with
    ⟨_, _, same⟩ | ⟨_, _, same⟩ | ⟨_, _, _, same⟩ | ⟨_, _, same⟩ <;> rw [same] at forbidden ⊢
  · exact stop_traffic _ s.now
  · rfl
  · exact refresh_silent (m := { m with application := .foreground }) s forbidden
  · rfl

theorem step_silent (s : Surroundings) (op : Operation) (guarded : Guarded m) (forbidden : Forbidden (m.step s op)) :
    (m.step s op).traffic = m.traffic := by
  cases op with
  | activate =>
    rw [step, activate]
    split <;> rfl
  | start => exact start_silent s forbidden
  | stop => exact stop_traffic m s.now
  | refresh => exact refresh_silent s forbidden
  | clear => exact congrArg Control.traffic (control_clear m)
  | shutdown => rfl
  | tick => exact tick_silent s.now guarded forbidden
  | ring => exact ring_silent s guarded forbidden
  | catalogChanged => exact start_silent s forbidden
  | clearExpiredCooldowns => exact congrArg Control.traffic (control_clearExpiredCooldowns m s.now)
  | hearReply k => exact hearReply_silent s.now k guarded forbidden
  | hear event => exact hear_silent s.now event guarded forbidden
  | setEnabled enabled => exact setEnabled_silent s enabled forbidden
  | setObserver o => exact congrArg Control.traffic (control_setObserver m s.now o)
  | setTunnel tunnel => exact setTunnel_silent s tunnel forbidden
  | setApplication application => exact setApplication_silent s application forbidden
  | recordLatency key ms => exact congrArg Control.traffic (control_recordLatency m s.now key ms)
  | setCooldown key timeout => exact congrArg Control.traffic (control_setCooldown m s.now key timeout)
  | setCityCooldown country code timeout =>
    exact congrArg Control.traffic (control_setCityCooldown m s.now country code timeout)
  | replaceCatalog countries => rfl

/-- What an operation puts into the log, if it leaves the traffic alone. -/
theorem silent_made {s : Surroundings} {op : Operation} (same : (m.step s op).traffic = m.traffic) :
    ∃ made, (m.step s op).log = made ++ m.log ∧ ∀ effect ∈ made, effect.isTraffic = false := by
  obtain ⟨made, split⟩ := step_log m s op
  refine ⟨made, split.symm, ?_⟩
  have whole : (made ++ m.log).filter Effect.isTraffic = m.log.filter Effect.isTraffic := by
    rw [split]
    exact same
  have none : made.filter Effect.isTraffic = [] := by simpa using whole
  simpa using none

/-- While the tunnel is active, the application in the background or the monitor switched off, no sweep is running, and
the operation that ended so has sent nothing. -/
theorem no_probe_where_forbidden (config : Config) (catalog : Catalog)
    (operations : List (Surroundings × Operation)) :
    let m := (ofConfig config catalog).run operations
    (m.tunnel = .active ∨ m.application = .background ∨ m.enabled = false → m.hasTransport = false) ∧
    (∀ s op, let n := m.step s op
      n.tunnel = .active ∨ n.application = .background ∨ n.enabled = false →
        ∃ made, n.log = made ++ m.log ∧ ∀ effect ∈ made, effect.isTraffic = false) ∧
    (m.enabled = false → m.alarms.refresh = none ∧ m.wantsSweep = false) := by
  intro m
  have restrained : Restrained m :=
    run_keeps (I := Restrained) (fun _ => step_restrained _ _) (ofConfig_restrained config catalog) fun _ _ => trivial
  refine ⟨restrained.still, ?_, ?_⟩
  · intro s op n forbidden
    exact silent_made (step_silent s op restrained.toGuarded forbidden)
  · intro off
    exact ⟨restrained.disarmed off, (restrained.off off).2⟩

end RelayQuality.Monitor
