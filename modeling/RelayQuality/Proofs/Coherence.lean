import Mathlib.Algebra.Order.Field.Rat
import Mathlib.Tactic.Positivity
import RelayQuality.Proofs.Course
import RelayQuality.Proofs.Run

/-!
# Coherence of a sweep

Transport, table of probes in flight, probe alarm and counts belong together after every operation.
`Poised` is what is left of that while an alarm rings or an answer is taken out of the table, and what
a tick needs to restore the whole.
-/

namespace RelayQuality

/-- The part that is done as an exact fraction, one where there is nothing to do. -/
def Progress.exact (p : Progress) : ℚ := if p.total = 0 then 1 else 1 - p.remaining / p.total

theorem Progress.exact_bounds {p : Progress} (left : 0 < p.remaining) (bounded : p.remaining ≤ p.total) :
    0 ≤ p.exact ∧ p.exact < 1 := by
  have total : (0 : ℚ) < p.total := by exact_mod_cast Nat.lt_of_lt_of_le left bounded
  have remaining : (0 : ℚ) < p.remaining := by exact_mod_cast left
  have share : (p.remaining : ℚ) / p.total ≤ 1 := (div_le_one total).mpr (by exact_mod_cast bounded)
  have positive : 0 < (p.remaining : ℚ) / p.total := div_pos remaining total
  rw [exact, if_neg (by omega)]
  exact ⟨sub_nonneg.mpr share, sub_lt_self 1 positive⟩

namespace Monitor

/-- The sweep counts right, and without a transport there is no sweep. -/
structure Poised (pace : Pace) (m : Monitor) : Prop where
  paced : m.sweep.pace = pace
  bounded : m.sweep.flying.length + m.sweep.queue.length ≤ m.sweep.total
  closed : m.hasTransport = false →
    m.sweep.flying = [] ∧ m.sweep.queue = [] ∧ m.sweep.total = 0 ∧ m.alarms.probe = none

/-- A transport is open exactly while probes are in flight, and the alarm waits for the oldest of them. -/
structure Coherent (pace : Pace) (m : Monitor) : Prop extends Poised pace m where
  busy : m.hasTransport = true → m.sweep.flying ≠ []
  waiting : m.alarms.probe = m.sweep.flying.head?.map (Probe.deadline · pace.timeout)

variable {pace : Pace} {m n : Monitor}

theorem Poised.of_same (poised : Poised pace m) (transport : n.hasTransport = m.hasTransport)
    (sweep : n.sweep = m.sweep) (probe : n.alarms.probe = m.alarms.probe) : Poised pace n := by
  obtain ⟨paced, bounded, closed⟩ := poised
  rw [← sweep, ← transport, ← probe] at *
  exact ⟨paced, bounded, closed⟩

theorem Coherent.of_same (coherent : Coherent pace m) (transport : n.hasTransport = m.hasTransport)
    (sweep : n.sweep = m.sweep) (probe : n.alarms.probe = m.alarms.probe) : Coherent pace n := by
  obtain ⟨poised, busy, waiting⟩ := coherent
  refine ⟨poised.of_same transport sweep probe, ?_, ?_⟩
  · rw [transport, sweep]
    exact busy
  · rw [probe, sweep]
    exact waiting

theorem Coherent.of_control (coherent : Coherent pace m) (same : n.control = m.control) : Coherent pace n :=
  coherent.of_same (congrArg Control.hasTransport same) (congrArg Control.sweep same) (congrArg Control.probe same)

theorem ofConfig_coherent (config : Config) (catalog : Catalog) :
    Coherent (.ofLimits config.probeTimeout config.maxParallel config.maxRetries) (ofConfig config catalog) :=
  ⟨⟨rfl, Nat.le_refl 0, fun _ => ⟨rfl, rfl, rfl, rfl⟩⟩, nofun, rfl⟩

theorem halt_coherent (paced : m.sweep.pace = pace) : Coherent pace m.halt :=
  ⟨⟨paced, Nat.le_refl 0, fun _ => ⟨rfl, rfl, rfl, rfl⟩⟩, nofun, rfl⟩

theorem stop_coherent (now : Reading) (paced : m.sweep.pace = pace) : Coherent pace (m.stop now) := by
  rw [stop_eq]
  exact (halt_coherent paced).of_same rfl rfl rfl

theorem shutdown_coherent (paced : m.sweep.pace = pace) : Coherent pace m.shutdown :=
  (halt_coherent paced).of_same rfl rfl rfl

theorem tick_coherent (now : Reading) (poised : Poised pace m) : Coherent pace (m.tick now) := by
  rcases tick_cases m now with ⟨transport, same⟩ | ⟨transport, table, same⟩ | ⟨transport, p, rest, table, same⟩
  · obtain ⟨empty, _, _, unset⟩ := poised.closed transport
    rw [same]
    refine ⟨poised, ?_, ?_⟩
    · simp [transport]
    · simp [empty, unset]
  · rw [same]
    exact stop_coherent now (by rw [advanced_eq]; exact poised.paced)
  · rw [same, advanced_eq, poised.paced]
    refine ⟨⟨poised.paced, ?_, ?_⟩, ?_, ?_⟩
    · exact Nat.le_trans (Sweep.length_advanced_le _ _) poised.bounded
    · intro closed
      simp [transport] at closed
    · simp [table]
    · simp [table]

theorem prepared_poised (paced : m.sweep.pace = pace) : Poised pace m.prepared.opened.announce := by
  refine ⟨paced, ?_, nofun⟩
  simp [prepared, opened, announce, emit, Sweep.load]

theorem start_coherent (s : Surroundings) (coherent : Coherent pace m) : Coherent pace (m.start s) := by
  rcases start_cases m s with ⟨_, same⟩ | ⟨_, _, same⟩ | ⟨_, _, _, same⟩ | ⟨_, _, _, same | same⟩ <;> rw [same]
  · exact coherent.of_control (control_clear m)
  · exact coherent.of_same rfl rfl rfl
  · exact coherent
  · exact tick_coherent s.now (prepared_poised coherent.paced)
  · exact stop_coherent s.now coherent.paced

theorem refresh_coherent (s : Surroundings) (coherent : Coherent pace m) : Coherent pace (m.refresh s) := by
  rcases refresh_cases m s with ⟨_, same⟩ | ⟨_, same⟩ <;> rw [same]
  · exact coherent
  · exact start_coherent s (coherent.of_control (control_clear m))

theorem answered_poised (now : Reading) (p : Probe) (transport : m.hasTransport = true) (poised : Poised pace m) :
    Poised pace (m.answered now p) := by
  have erased : (m.sweep.answered p.sequence).flying.length ≤ m.sweep.flying.length := List.length_eraseP_le
  have bounded := poised.bounded
  have same := control_answered m now p
  have sweep : (m.answered now p).sweep = m.sweep.answered p.sequence := congrArg Control.sweep same
  have opened : (m.answered now p).hasTransport = true := (congrArg Control.hasTransport same).trans transport
  refine ⟨by rw [sweep]; exact poised.paced, ?_, by simp [opened]⟩
  rw [sweep]
  exact Nat.le_trans (Nat.add_le_add_right erased _) poised.bounded

theorem hearReply_coherent (now : Reading) (n : UInt16) (coherent : Coherent pace m) :
    Coherent pace (m.hearReply now n) := by
  rcases hearReply_cases m now n with ⟨_, same⟩ | ⟨transport, p, _, _, same⟩ <;> rw [same]
  · exact coherent
  · exact tick_coherent now (answered_poised now p transport coherent.toPoised)

theorem hear_coherent (now : Reading) (event : TransportEvent) (coherent : Coherent pace m) :
    Coherent pace (m.hear now event) :=
  hear_keeps coherent (fun n => hearReply_coherent now n coherent) event

theorem probeRung_coherent (s : Surroundings) (coherent : Coherent pace m) : Coherent pace (m.probeRung s) := by
  obtain ⟨⟨paced, bounded, closed⟩, busy, waiting⟩ := coherent
  unfold probeRung
  split
  next =>
    refine tick_coherent s.now ⟨paced, bounded, ?_⟩
    intro transport
    obtain ⟨empty, unqueued, zero, unset⟩ := closed transport
    exact ⟨empty, unqueued, zero, by simp [Alarms.afterRinging, Alarms.rest, unset]⟩
  next early =>
    have kept : (m.alarms.afterRinging s.now.millis).probe = m.alarms.probe := if_neg early
    refine ⟨⟨paced, bounded, ?_⟩, busy, kept.trans waiting⟩
    intro transport
    obtain ⟨empty, unqueued, zero, unset⟩ := closed transport
    exact ⟨empty, unqueued, zero, kept.trans unset⟩

theorem ring_coherent (s : Surroundings) (coherent : Coherent pace m) : Coherent pace (m.ring s) := by
  refine Coherent.of_control ?_ (control_ring m s)
  unfold sweepRung
  split
  · exact start_coherent s (probeRung_coherent s coherent)
  · exact probeRung_coherent s coherent

theorem setEnabled_coherent (s : Surroundings) (enabled : Bool) (coherent : Coherent pace m) :
    Coherent pace (m.setEnabled s enabled) := by
  rcases setEnabled_cases m s enabled with ⟨_, same⟩ | ⟨_, _, same⟩ | ⟨_, _, _, rfl, same⟩ <;> rw [same]
  · exact coherent
  · exact start_coherent s (coherent.of_same rfl rfl rfl)
  · exact (halt_coherent coherent.paced).of_same rfl rfl rfl

theorem setTunnel_coherent (s : Surroundings) (tunnel : Tunnel) (coherent : Coherent pace m) :
    Coherent pace (m.setTunnel s tunnel) := by
  rcases setTunnel_cases m s tunnel with ⟨_, same⟩ | ⟨_, _, same⟩ | ⟨_, _, same⟩ <;> rw [same]
  · exact stop_coherent s.now coherent.paced
  · exact start_coherent s (coherent.of_same rfl rfl rfl)
  · exact coherent.of_same rfl rfl rfl

theorem setApplication_coherent (s : Surroundings) (application : Application) (coherent : Coherent pace m) :
    Coherent pace (m.setApplication s application) := by
  rcases setApplication_cases m s application with
    ⟨_, _, same⟩ | ⟨_, _, same⟩ | ⟨_, _, _, same⟩ | ⟨_, _, same⟩ <;> rw [same]
  · exact stop_coherent s.now coherent.paced
  · exact coherent.of_same rfl rfl rfl
  · exact refresh_coherent s (coherent.of_same rfl rfl rfl)
  · exact coherent.of_same rfl rfl rfl

theorem activate_coherent (now : Reading) (coherent : Coherent pace m) : Coherent pace (m.activate now) := by
  unfold activate
  split
  · exact coherent.of_same rfl rfl rfl
  · exact coherent

theorem step_coherent (s : Surroundings) (op : Operation) (coherent : Coherent pace m) :
    Coherent pace (m.step s op) := by
  cases op with
  | activate => exact activate_coherent s.now coherent
  | start => exact start_coherent s coherent
  | stop => exact stop_coherent s.now coherent.paced
  | refresh => exact refresh_coherent s coherent
  | clear => exact coherent.of_control (control_clear m)
  | shutdown => exact shutdown_coherent coherent.paced
  | tick => exact tick_coherent s.now coherent.toPoised
  | ring => exact ring_coherent s coherent
  | catalogChanged => exact start_coherent s coherent
  | clearExpiredCooldowns => exact coherent.of_control (control_clearExpiredCooldowns m s.now)
  | hearReply n => exact hearReply_coherent s.now n coherent
  | hear event => exact hear_coherent s.now event coherent
  | setEnabled enabled => exact setEnabled_coherent s enabled coherent
  | setObserver o => exact coherent.of_control (control_setObserver m s.now o)
  | setTunnel tunnel => exact setTunnel_coherent s tunnel coherent
  | setApplication application => exact setApplication_coherent s application coherent
  | recordLatency key ms => exact coherent.of_control (control_recordLatency m s.now key ms)
  | setCooldown key timeout => exact coherent.of_control (control_setCooldown m s.now key timeout)
  | setCityCooldown country code timeout =>
    exact coherent.of_control (control_setCityCooldown m s.now country code timeout)
  | replaceCatalog countries => exact coherent.of_control (control_replaceCatalog m countries)

theorem run_coherent (coherent : Coherent pace m) (operations : List (Surroundings × Operation)) :
    Coherent pace (m.run operations) :=
  run_keeps (I := Coherent pace) (fun _ => step_coherent _ _) coherent (fun _ _ => trivial)

/-- A transport is open exactly while probes are in flight, and exactly then the probe alarm is set, for the deadline of
the oldest of them. -/
theorem sweep_parts_agree (config : Config) (catalog : Catalog) (operations : List (Surroundings × Operation)) :
    let m := (ofConfig config catalog).run operations
    (m.hasTransport = true ↔ m.sweep.flying ≠ []) ∧
    (m.sweep.flying ≠ [] ↔ m.alarms.probe.isSome) ∧
    (∀ deadline, m.alarms.probe = some deadline → ∃ front, m.sweep.flying.head? = some front ∧
      deadline = Millis.add front.sentAt config.probeTimeout.millis) ∧
    (m.hasTransport = false → m.sweep.queue = [] ∧ m.sweep.flying = [] ∧ m.sweep.total = 0) ∧
    (m.hasTransport = true → 0 < m.sweep.flying.length + m.sweep.queue.length ∧
      m.sweep.flying.length + m.sweep.queue.length ≤ m.sweep.total ∧
      0 ≤ m.progress.exact ∧ m.progress.exact < 1) := by
  intro m
  obtain ⟨⟨paced, bounded, closed⟩, busy, waiting⟩ := run_coherent (ofConfig_coherent config catalog) operations
  change m.sweep.flying.length + m.sweep.queue.length ≤ m.sweep.total at bounded
  refine ⟨⟨busy, ?_⟩, ?_, ?_, ?_, ?_⟩
  · intro flying
    by_contra shut
    exact flying (closed (Bool.eq_false_iff.mpr shut)).1
  · rw [show m.alarms.probe = _ from waiting]
    cases m.sweep.flying <;> simp
  · intro deadline set
    rw [show m.alarms.probe = _ from waiting] at set
    obtain ⟨front, head, same⟩ := Option.map_eq_some_iff.mp set
    exact ⟨front, head, same.symm⟩
  · intro transport
    obtain ⟨empty, unqueued, zero, _⟩ := closed transport
    exact ⟨unqueued, empty, zero⟩
  · intro transport
    have some := List.length_pos_iff.mpr (busy transport)
    have left : 0 < m.sweep.flying.length + m.sweep.queue.length := Nat.add_pos_left some _
    have progress : m.progress = ⟨m.sweep.flying.length + m.sweep.queue.length, m.sweep.total⟩ := if_pos transport
    rw [progress]
    exact ⟨left, bounded, Progress.exact_bounds left bounded⟩

end Monitor

end RelayQuality
