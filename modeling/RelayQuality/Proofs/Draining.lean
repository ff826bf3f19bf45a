import RelayQuality.Proofs.Coherence
import RelayQuality.Proofs.CooldownAlarm
import RelayQuality.Proofs.Notification

/-!
# A ring drains the alarms

The work of an alarm that rang may set it again, and the work of the others too. It is then set for a later time: the
sweep waits at least a millisecond, a cooldown that is left ends in a later second. Only the alarm for notices may be
set for the same moment, where notices are not to be delayed, and then a second ring has nothing else to do.
-/

namespace RelayQuality

namespace Alarms

/-- The alarm does not ring before a later time. -/
def IsAhead (alarm : Option Nat) (now : Nat) : Prop := ∀ deadline, alarm = some deadline → now < deadline

variable {alarm : Option Nat} {now : Nat}

theorem isAhead_none : IsAhead none now := nofun

theorem isAhead_some {deadline : Nat} (later : now < deadline) : IsAhead (some deadline) now := by
  rintro _ ⟨⟩
  exact later

theorem isAhead_rest (alarm : Option Nat) (now : Nat) : IsAhead (rest alarm now) now :=
  fun _ set => (rest_eq_some.mp set).2

theorem isDue_eq_false : isDue alarm now = false ↔ IsAhead alarm now := by
  cases alarm <;> simp [isDue, IsAhead]

theorem lt_next {a : Alarms} (ahead : ∀ alarm ∈ [a.probe, a.refresh, a.cooldown, a.progress], IsAhead alarm now)
    {deadline : Nat} (next : a.next? = some deadline) : now < deadline := by
  have listed := List.min?_mem next
  simp only [List.mem_filterMap, id] at listed
  obtain ⟨alarm, member, set⟩ := listed
  exact ahead alarm member deadline set

end Alarms

open Alarms (IsAhead isAhead_none isAhead_some isAhead_rest isDue_eq_false)

namespace Monitor

/-- Neither the sweep nor the next one has anything to do before a later time. -/
structure Drained (now : Nat) (m : Monitor) : Prop where
  probe : IsAhead m.alarms.probe now
  refresh : IsAhead m.alarms.refresh now

variable {m : Monitor} {now : Reading} {s : Surroundings}

/-! ### The turn of the sweep -/

theorem rested_drained (m : Monitor) (now : Nat) : Drained now (m.rested now) :=
  ⟨isAhead_rest _ _, isAhead_rest _ _⟩

theorem stop_drained (early : now.millis < Millis.last) (interval : 0 < m.config.refreshInterval.millis)
    (refresh : IsAhead m.alarms.refresh now.millis) : Drained now.millis (m.stop now) := by
  rw [stop_eq]
  refine ⟨isAhead_none, ?_⟩
  dsimp only
  split
  · exact isAhead_some (Millis.lt_add early interval)
  · exact refresh

theorem tick_drained (early : now.millis < Millis.last) (timeout : 0 < m.sweep.pace.timeout)
    (interval : 0 < m.config.refreshInterval.millis) (drained : Drained now.millis m) :
    Drained now.millis (m.tick now) := by
  rcases tick_cases m now with ⟨_, same⟩ | ⟨_, _, same⟩ | ⟨_, p, rest, table, same⟩ <;> rw [same]
  · exact drained
  · refine stop_drained early ?_ ?_ <;> rw [advanced_eq]
    · exact interval
    · exact drained.refresh
  · rw [advanced_eq]
    refine ⟨isAhead_some ?_, drained.refresh⟩
    have front : (m.sweep.advanced now.millis).flying.head? = some p := by rw [table, List.head?_cons]
    rcases Sweep.advanced_front front with later | fresh
    · exact later
    · rw [Probe.deadline, fresh]
      exact Millis.lt_add early timeout

theorem start_drained (early : s.now.millis < Millis.last) (timeout : 0 < m.sweep.pace.timeout)
    (interval : 0 < m.config.refreshInterval.millis) (drained : Drained s.now.millis m) :
    Drained s.now.millis (m.start s) := by
  rcases start_cases m s with ⟨_, same⟩ | ⟨_, _, same⟩ | ⟨_, _, _, same⟩ | ⟨_, _, _, same | same⟩ <;> rw [same]
  · exact ⟨drained.probe, drained.refresh⟩
  · exact ⟨drained.probe, drained.refresh⟩
  · exact drained
  · exact tick_drained early timeout interval ⟨drained.probe, isAhead_none⟩
  · exact stop_drained early interval drained.refresh

theorem sweepRung_drained {pace : Pace} (coherent : Coherent pace m) (early : s.now.millis < Millis.last)
    (timeout : 0 < pace.timeout) (interval : 0 < m.config.refreshInterval.millis) :
    Drained s.now.millis (m.sweepRung s) := by
  have probed : Drained s.now.millis (m.probeRung s) := by
    unfold probeRung
    split
    · exact tick_drained early (by rw [coherent.paced]; exact timeout) interval (rested_drained m s.now.millis)
    · exact rested_drained m s.now.millis
  unfold sweepRung
  split
  · have paced : (m.probeRung s).sweep.pace = pace := (probeRung_coherent s coherent).paced
    have config : (m.probeRung s).config = m.config := congrArg Frame.config (frame_probeRung m s)
    exact start_drained early (by rw [paced]; exact timeout) (by rw [config]; exact interval) probed
  · exact probed

/-! ### The whole ring -/

theorem ring_drained {pace : Pace} (coherent : Coherent pace m) (early : s.now.millis < Millis.last)
    (timeout : 0 < pace.timeout) (interval : 0 < m.config.refreshInterval.millis) :
    Drained s.now.millis (m.ring s) := by
  have swept := sweepRung_drained coherent early timeout interval
  have same := control_ring m s
  have probe : (m.ring s).alarms.probe = (m.sweepRung s).alarms.probe := congrArg Control.probe same
  have refresh : (m.ring s).alarms.refresh = (m.sweepRung s).alarms.refresh := congrArg Control.refresh same
  exact ⟨probe ▸ swept.probe, refresh ▸ swept.refresh⟩

/-- A cooldown that is left after the ring ends in a later second, which is at least a second away. -/
theorem ring_cooldown_ahead (early : s.now.millis < Millis.last) :
    IsAhead (m.ring s).alarms.cooldown s.now.millis := by
  rcases ring_sets m s with ⟨due, set, _⟩ | ⟨early, same⟩
  · intro deadline armed
    obtain ⟨second, next, rfl⟩ := Option.map_eq_some_iff.mp (set.symm.trans armed)
    have later := ring_leaves_later due second (isLeast_of_nextEnd next).1
    refine Millis.lt_add early ?_
    simp only [millisUntil, Millis.mul, Epoch.sub, Epoch.clamp, Epoch.first, Epoch.last, Millis.last]
    omega
  · rw [show (m.ring s).alarms.cooldown = m.alarms.cooldown from congrArg Prod.snd same]
    exact isDue_eq_false.mp (Bool.eq_false_iff.mpr early)

theorem ring_progress_ahead (early : s.now.millis < Millis.last) (delay : 0 < m.config.progressDelay.millis) :
    IsAhead (m.ring s).alarms.progress s.now.millis := by
  intro deadline set
  rcases ring_origin set with ⟨_, later⟩ | rfl
  · exact later
  · exact Millis.lt_add early delay

/-- Where neither sweep nor cooldowns are due, a ring takes away the alarm for notices and sets none. -/
theorem ring_again (drained : Drained s.now.millis m) (cooldown : IsAhead m.alarms.cooldown s.now.millis) :
    (m.ring s).alarms = m.alarms.afterRinging s.now.millis := by
  have probed : m.probeRung s = m.rested s.now.millis := by
    rw [probeRung, isDue_eq_false.mpr drained.probe]
    rfl
  have swept : m.sweepRung s = m.rested s.now.millis := by
    rw [sweepRung, isDue_eq_false.mpr drained.refresh]
    exact probed
  rw [ring_eq, isDue_eq_false.mpr cooldown, swept]
  dsimp only
  split <;> rfl

/-- One ring leaves every alarm but that of notices to a later time, and a second ring that one too. -/
theorem ring_drains_alarms (config : Config) (catalog : Catalog) (operations : List (Surroundings × Operation))
    {s : Surroundings} (early : s.now.millis < Millis.last) (timeout : 1 ≤ config.probeTimeout.millis)
    (interval : 1 ≤ config.refreshInterval.millis) :
    let once := ((ofConfig config catalog).run operations).ring s
    (∀ alarm ∈ [once.alarms.probe, once.alarms.refresh, once.alarms.cooldown], ∀ deadline,
      alarm = some deadline → s.now.millis < deadline) ∧
    (1 ≤ config.progressDelay.millis →
      (∀ deadline, once.alarms.progress = some deadline → s.now.millis < deadline) ∧
      ∀ next, once.nextDeadline? = some next → s.now.millis < next) ∧
    ∀ again : Surroundings, again.now.millis = s.now.millis →
      let twice := once.ring again
      (∀ alarm ∈ [twice.alarms.probe, twice.alarms.refresh, twice.alarms.cooldown, twice.alarms.progress], ∀ deadline,
        alarm = some deadline → s.now.millis < deadline) ∧
      ∀ next, twice.nextDeadline? = some next → s.now.millis < next := by
  intro once
  let m := (ofConfig config catalog).run operations
  have coherent := run_coherent (ofConfig_coherent config catalog) operations
  have settings : m.config = config := run_config (ofConfig config catalog) operations
  obtain ⟨probe, refresh⟩ : Drained s.now.millis once :=
    ring_drained coherent early timeout (by rw [settings]; exact interval)
  have cooldown : IsAhead once.alarms.cooldown s.now.millis := ring_cooldown_ahead early
  refine ⟨?_, ?_, ?_⟩
  · simpa using ⟨probe, refresh, cooldown⟩
  · intro delay
    have progress : IsAhead once.alarms.progress s.now.millis :=
      ring_progress_ahead early (by rw [settings]; exact delay)
    exact ⟨progress, fun next => Alarms.lt_next (by simpa using ⟨probe, refresh, cooldown, progress⟩)⟩
  · intro again same twice
    rw [← same] at probe refresh cooldown ⊢
    have alarms : twice.alarms = once.alarms.afterRinging again.now.millis := ring_again ⟨probe, refresh⟩ cooldown
    have ahead : ∀ alarm ∈ [twice.alarms.probe, twice.alarms.refresh, twice.alarms.cooldown, twice.alarms.progress],
        IsAhead alarm again.now.millis := by
      simp only [alarms, Alarms.afterRinging, List.forall_mem_cons, List.not_mem_nil]
      exact ⟨isAhead_rest _ _, isAhead_rest _ _, isAhead_rest _ _, isAhead_rest _ _, fun _ => False.elim⟩
    exact ⟨ahead, fun next => Alarms.lt_next ahead⟩

/-- Notices are not delayed. The sweep that is due cannot begin, and the end of the cooldown is worth a notice. -/
def undelayed : List (Surroundings × Operation) :=
  [(⟨⟨0, 100⟩, true⟩, .activate), (⟨⟨0, 100⟩, true⟩, .setCooldown "a" 5)]

theorem undelayed_drains :
    let config : Config := { progressDelay := ⟨0, 0⟩ }
    let s : Surroundings := ⟨⟨5000, 105⟩, false⟩
    let m := (ofConfig config soleCity).run undelayed
    let twice := (m.ring s).ring s
    s.now.millis < Millis.last ∧ 1 ≤ config.probeTimeout.millis ∧ 1 ≤ config.refreshInterval.millis ∧
    m.alarms = ⟨none, some 1000, some 5000, some 0⟩ ∧
    (m.ring s).alarms = ⟨none, some 1805000, none, some 5000⟩ ∧ (m.ring s).nextDeadline? = some 5000 ∧
    twice.nextDeadline? = some 1805000 ∧ s.now.millis < 1805000 := by
  intro config s m twice
  have early : s.now.millis < Millis.last := by decide
  have timeout : 1 ≤ config.probeTimeout.millis := by decide
  have interval : 1 ≤ config.refreshInterval.millis := by decide
  have next : twice.nextDeadline? = some 1805000 := by decide
  obtain ⟨_, _, second⟩ := ring_drains_alarms config soleCity undelayed early timeout interval
  exact ⟨early, timeout, interval, by decide +kernel, by decide +kernel, by decide, next, (second s rfl).2 _ next⟩

end Monitor

end RelayQuality
