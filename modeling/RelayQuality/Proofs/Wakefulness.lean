import RelayQuality.Proofs.Course
import RelayQuality.Proofs.Run

/-!
# The monitor wakes up again

A monitor that is switched on and idle has its refresh alarm set, or it is held back and remembers that a
sweep is wanted. `Guarded` is the part of this that survives the moment in which the refresh alarm has
rung or a hold has gone; `start` makes the whole out of it.
-/

namespace RelayQuality.Monitor

/-- Sweeps run only where they may, and a wish stands only where no sweep runs. -/
structure Guarded (m : Monitor) : Prop where
  permitted : m.hasTransport = true → m.enabled = true ∧ m.isHeld = false
  wish : m.wantsSweep = true → m.enabled = true ∧ m.hasTransport = false

/-- An idle monitor has something that will wake it. -/
structure Awake (m : Monitor) : Prop extends Guarded m where
  held : m.wantsSweep = true → m.isHeld = true
  waiting : m.enabled = true → m.hasTransport = false →
    m.alarms.refresh.isSome ∨ m.isHeld = true ∧ m.wantsSweep = true

variable {m n : Monitor}

theorem Guarded.off (guarded : Guarded m) (off : m.enabled = false) :
    m.hasTransport = false ∧ m.wantsSweep = false := by
  constructor <;> apply Bool.eq_false_iff.mpr
  · intro transport
    exact nomatch off.symm.trans (guarded.permitted transport).1
  · intro wants
    exact nomatch off.symm.trans (guarded.wish wants).1

theorem Guarded.unwanted (guarded : Guarded m) (transport : m.hasTransport = true) : m.wantsSweep = false := by
  apply Bool.eq_false_iff.mpr
  intro wants
  exact nomatch transport.symm.trans (guarded.wish wants).2

theorem Guarded.idle (guarded : Guarded m) (held : m.isHeld = true) : m.hasTransport = false := by
  apply Bool.eq_false_iff.mpr
  intro transport
  exact nomatch held.symm.trans (guarded.permitted transport).2

theorem Awake.of_control (awake : Awake m) (same : n.control = m.control) : Awake n := by
  have held := isHeld_of_control same
  simp only [control, Control.mk.injEq] at same
  obtain ⟨-, -, transport, -, enabled, -, -, wants, -, refresh, -⟩ := same
  refine ⟨⟨?_, ?_⟩, ?_, ?_⟩ <;> simp only [transport, enabled, wants, held, refresh]
  · exact awake.permitted
  · exact awake.wish
  · exact awake.held
  · exact awake.waiting

theorem stop_awake (now : Reading) (wish : m.wantsSweep = true → m.isHeld = true ∧ m.enabled = true) :
    Awake (m.stop now) := by
  rw [stop_eq]
  refine ⟨⟨nofun, fun wants => ⟨(wish wants).2, rfl⟩⟩, fun wants => (wish wants).1, ?_⟩
  intro enabled _
  have on : m.enabled = true := enabled
  cases set : m.alarms.refresh <;> simp [on]

theorem tick_guarded (now : Reading) (guarded : Guarded m) : Guarded (m.tick now) := by
  rcases tick_cases m now with ⟨_, same⟩ | ⟨transport, _, same⟩ | ⟨_, p, rest, _, same⟩
  · rw [same]
    exact guarded
  · rw [same]
    -- a sweep that ends here leaves no wish behind, as none stood while it ran
    refine (stop_awake now ?_).toGuarded
    rw [advanced_eq]
    intro wants
    exact nomatch (guarded.unwanted transport).symm.trans wants
  · rw [same, advanced_eq]
    exact ⟨guarded.permitted, guarded.wish⟩

theorem tick_awake (now : Reading) (awake : Awake m) : Awake (m.tick now) := by
  rcases tick_cases m now with ⟨_, same⟩ | ⟨transport, _, same⟩ | ⟨_, p, rest, _, same⟩
  · rw [same]
    exact awake
  · rw [same]
    refine stop_awake now ?_
    rw [advanced_eq]
    exact fun wants => ⟨awake.held wants, (awake.wish wants).1⟩
  · rw [same, advanced_eq]
    exact ⟨⟨awake.permitted, awake.wish⟩, awake.held, awake.waiting⟩

/-- Beginning a sweep makes good for a wish whose hold has gone and for a refresh alarm that has rung. -/
theorem start_awake (s : Surroundings) (guarded : Guarded m) : Awake (m.start s) := by
  rcases start_cases m s with
    ⟨off, same⟩ | ⟨on, held, same⟩ | ⟨on, free, transport, same⟩ | ⟨on, free, idle, same | same⟩
  · have unwanted := (guarded.off off).2
    rw [same]
    refine ⟨⟨guarded.permitted, guarded.wish⟩, ?_, ?_⟩
    · intro wants
      exact nomatch unwanted.symm.trans wants
    · intro on
      exact nomatch off.symm.trans on
  · rw [same]
    exact ⟨⟨guarded.permitted, fun _ => ⟨on, guarded.idle held⟩⟩, fun _ => held, fun _ _ => Or.inr ⟨held, rfl⟩⟩
  · have unwanted := guarded.unwanted transport
    rw [same]
    refine ⟨guarded, ?_, ?_⟩
    · intro wants
      exact nomatch unwanted.symm.trans wants
    · intro _ idle
      exact nomatch transport.symm.trans idle
  · rw [same]
    exact tick_awake s.now ⟨⟨fun _ => ⟨on, free⟩, nofun⟩, nofun, nofun⟩
  · rw [same]
    exact stop_awake s.now nofun

theorem refresh_awake (s : Surroundings) (guarded : Guarded m) (idle : m.hasTransport = false) :
    Awake (m.refresh s) := by
  rcases refresh_cases m s with ⟨transport, _⟩ | ⟨_, same⟩
  · exact nomatch idle.symm.trans transport
  · rw [same]
    exact start_awake s ⟨guarded.permitted, guarded.wish⟩

theorem hearReply_awake (now : Reading) (sequence : UInt16) (awake : Awake m) : Awake (m.hearReply now sequence) := by
  rcases hearReply_cases m now sequence with ⟨_, same⟩ | ⟨_, p, _, _, same⟩ <;> rw [same]
  · exact awake
  · refine tick_awake now ?_
    refine Awake.of_control (m := { m with sweep := m.sweep.answered p.sequence }) ?_ (control_answered m now p)
    exact ⟨⟨awake.permitted, awake.wish⟩, awake.held, awake.waiting⟩

theorem hear_awake (now : Reading) (event : TransportEvent) (awake : Awake m) : Awake (m.hear now event) :=
  hear_keeps awake (fun n => hearReply_awake now n awake) event

/-- The refresh alarm may have rung without its sweep having begun yet. -/
theorem probeRung_guarded (s : Surroundings) (guarded : Guarded m) : Guarded (m.probeRung s) := by
  unfold probeRung
  split
  · exact tick_guarded s.now ⟨guarded.permitted, guarded.wish⟩
  · exact ⟨guarded.permitted, guarded.wish⟩

theorem probeRung_awake (s : Surroundings) (awake : Awake m)
    (early : ¬ Alarms.isDue m.alarms.refresh s.now.millis = true) : Awake (m.probeRung s) := by
  have kept : (m.alarms.afterRinging s.now.millis).refresh = m.alarms.refresh := if_neg early
  have rested : Awake { m with alarms := m.alarms.afterRinging s.now.millis } :=
    ⟨⟨awake.permitted, awake.wish⟩, awake.held, by rw [kept]; exact awake.waiting⟩
  unfold probeRung
  split
  · exact tick_awake s.now rested
  · exact rested

theorem ring_awake (s : Surroundings) (awake : Awake m) : Awake (m.ring s) := by
  refine Awake.of_control ?_ (control_ring m s)
  unfold sweepRung
  split
  next => exact start_awake s (probeRung_guarded s awake.toGuarded)
  next early => exact probeRung_awake s awake early

theorem setEnabled_awake (s : Surroundings) (enabled : Bool) (awake : Awake m) : Awake (m.setEnabled s enabled) := by
  rcases setEnabled_cases m s enabled with ⟨_, same⟩ | ⟨off, _, same⟩ | ⟨_, _, _, rfl, same⟩ <;> rw [same]
  · exact awake
  · obtain ⟨idle, unwanted⟩ := awake.off off
    refine start_awake s ⟨?_, ?_⟩
    · intro transport
      exact nomatch idle.symm.trans transport
    · intro wants
      exact nomatch unwanted.symm.trans wants
  · exact ⟨⟨nofun, nofun⟩, nofun, nofun⟩

/-- A hold that is there keeps the monitor awake, whichever hold it is. -/
theorem hold_awake {tunnel : Tunnel} {application : Application} (awake : Awake m) (idle : m.hasTransport = false)
    (held : isHeld { m with tunnel, application } = true) : Awake { m with tunnel, application } := by
  refine ⟨⟨?_, awake.wish⟩, fun _ => held, ?_⟩
  · intro transport
    exact nomatch idle.symm.trans transport
  · intro on _
    exact (awake.waiting on idle).imp_right fun both => ⟨held, both.2⟩

theorem release_awake {tunnel : Tunnel} {application : Application} (awake : Awake m) (unwanted : m.wantsSweep = false)
    (frees : m.isHeld = false → isHeld { m with tunnel, application } = false) :
    Awake { m with tunnel, application } := by
  refine ⟨⟨?_, awake.wish⟩, ?_, ?_⟩
  · intro transport
    obtain ⟨on, free⟩ := awake.permitted transport
    exact ⟨on, frees free⟩
  · intro wants
    exact nomatch unwanted.symm.trans wants
  · intro on idle
    rcases awake.waiting on idle with set | ⟨_, wants⟩
    · exact Or.inl set
    · exact nomatch unwanted.symm.trans wants

theorem setTunnel_awake (s : Surroundings) (tunnel : Tunnel) (awake : Awake m) : Awake (m.setTunnel s tunnel) := by
  rcases setTunnel_cases m s tunnel with ⟨_, same⟩ | ⟨_, wants, same⟩ | ⟨_, unwanted, same⟩ <;> rw [same]
  · refine stop_awake s.now ?_
    intro wants
    refine ⟨rfl, ?_⟩
    rcases Bool.or_eq_true_iff.mp wants with wants | transport
    · exact (awake.wish wants).1
    · exact (awake.permitted transport).1
  · have idle := (awake.wish wants).2
    refine start_awake s ⟨?_, awake.wish⟩
    intro transport
    exact nomatch idle.symm.trans transport
  · refine release_awake awake unwanted ?_
    intro free
    exact isHeld_eq_false.mpr ⟨rfl, (isHeld_eq_false.mp free).2⟩

theorem setApplication_awake (s : Surroundings) (application : Application) (awake : Awake m) :
    Awake (m.setApplication s application) := by
  have away : isHeld { m with application := .background } = true := Bool.or_true _
  rcases setApplication_cases m s application with
    ⟨_, transport, same⟩ | ⟨_, idle, same⟩ | ⟨_, wants, _, same⟩ | ⟨_, stays, same⟩ <;> rw [same]
  · exact stop_awake s.now fun _ => ⟨away, (awake.permitted transport).1⟩
  · exact hold_awake awake idle away
  · have idle := (awake.wish wants).2
    refine refresh_awake s ⟨?_, awake.wish⟩ idle
    intro transport
    exact nomatch idle.symm.trans transport
  · by_cases wants : m.wantsSweep = true
    · exact hold_awake awake (awake.wish wants).2 (by rw [isHeld, stays wants]; rfl)
    · refine release_awake awake (Bool.eq_false_iff.mpr wants) ?_
      intro free
      exact isHeld_eq_false.mpr ⟨(isHeld_eq_false.mp free).1, rfl⟩

theorem activate_awake (now : Reading) (guarded : Guarded m) (held : m.wantsSweep = true → m.isHeld = true) :
    Awake (m.activate now) := by
  unfold activate
  split
  next => exact ⟨⟨guarded.permitted, guarded.wish⟩, held, fun _ _ => Or.inl rfl⟩
  next off => exact ⟨guarded, held, fun on => absurd on off⟩

theorem step_awake (s : Surroundings) {op : Operation} (lives : op ≠ .shutdown) (awake : Awake m) :
    Awake (m.step s op) := by
  cases op with
  | activate => exact activate_awake s.now awake.toGuarded awake.held
  | start => exact start_awake s awake.toGuarded
  | stop => exact stop_awake s.now fun wants => ⟨awake.held wants, (awake.wish wants).1⟩
  | refresh =>
    rcases refresh_cases m s with ⟨_, same⟩ | ⟨idle, _⟩
    · rw [step, same]
      exact awake
    · exact refresh_awake s awake.toGuarded idle
  | clear => exact awake.of_control (control_clear m)
  | shutdown => exact absurd rfl lives
  | tick => exact tick_awake s.now awake
  | ring => exact ring_awake s awake
  | catalogChanged => exact start_awake s awake.toGuarded
  | clearExpiredCooldowns => exact awake.of_control (control_clearExpiredCooldowns m s.now)
  | hearReply n => exact hearReply_awake s.now n awake
  | hear event => exact hear_awake s.now event awake
  | setEnabled enabled => exact setEnabled_awake s enabled awake
  | setObserver o => exact awake.of_control (control_setObserver m s.now o)
  | setTunnel tunnel => exact setTunnel_awake s tunnel awake
  | setApplication application => exact setApplication_awake s application awake
  | recordLatency key ms => exact awake.of_control (control_recordLatency m s.now key ms)
  | setCooldown key timeout => exact awake.of_control (control_setCooldown m s.now key timeout)
  | setCityCooldown country code timeout =>
    exact awake.of_control (control_setCityCooldown m s.now country code timeout)
  | replaceCatalog countries => exact awake.of_control (control_replaceCatalog m countries)

/-! ### The end of a hold -/

theorem hearReply_isHeld (m : Monitor) (now : Reading) (n : UInt16) : (m.hearReply now n).isHeld = m.isHeld := by
  rcases hearReply_cases m now n with ⟨_, same⟩ | ⟨_, p, _, _, same⟩ <;> rw [same]
  have taken := control_answered m now p
  have answered : (m.answered now p).isHeld = m.isHeld :=
    isHeld_of_control (m := { m with sweep := m.sweep.answered p.sequence }) taken
  exact (isHeld_of_frame (frame_tick _ now)).trans answered

theorem hear_isHeld (m : Monitor) (now : Reading) (event : TransportEvent) : (m.hear now event).isHeld = m.isHeld :=
  hear_keeps (I := fun n => n.isHeld = m.isHeld) rfl (hearReply_isHeld m now) event

theorem ring_isHeld (m : Monitor) (s : Surroundings) : (m.ring s).isHeld = m.isHeld :=
  (isHeld_of_control (control_ring m s)).trans (isHeld_of_frame (frame_sweepRung m s))

/-- Only tunnel and application hold the monitor back. -/
theorem step_isHeld (m : Monitor) (s : Surroundings) (op : Operation) :
    (∃ tunnel, op = .setTunnel tunnel) ∨ (∃ application, op = .setApplication application) ∨
      (m.step s op).isHeld = m.isHeld := by
  cases op with
  | setTunnel tunnel => exact Or.inl ⟨tunnel, rfl⟩
  | setApplication application => exact Or.inr (Or.inl ⟨application, rfl⟩)
  | activate => exact Or.inr (Or.inr (isHeld_of_frame (frame_activate m s.now)))
  | start => exact Or.inr (Or.inr (isHeld_of_frame (frame_start m s)))
  | stop => exact Or.inr (Or.inr (isHeld_of_frame (frame_stop m s.now)))
  | refresh => exact Or.inr (Or.inr (isHeld_of_frame (frame_refresh m s)))
  | clear => exact Or.inr (Or.inr rfl)
  | shutdown => exact Or.inr (Or.inr rfl)
  | tick => exact Or.inr (Or.inr (isHeld_of_frame (frame_tick m s.now)))
  | ring => exact Or.inr (Or.inr (ring_isHeld m s))
  | catalogChanged => exact Or.inr (Or.inr (isHeld_of_frame (frame_start m s)))
  | clearExpiredCooldowns => exact Or.inr (Or.inr (isHeld_of_control (control_clearExpiredCooldowns m s.now)))
  | hearReply n => exact Or.inr (Or.inr (hearReply_isHeld m s.now n))
  | hear event => exact Or.inr (Or.inr (hear_isHeld m s.now event))
  | setEnabled enabled => exact Or.inr (Or.inr (isHeld_of_frame (frame_setEnabled m s enabled)))
  | setObserver o => exact Or.inr (Or.inr (isHeld_of_control (control_setObserver m s.now o)))
  | recordLatency key ms => exact Or.inr (Or.inr (isHeld_of_control (control_recordLatency m s.now key ms)))
  | setCooldown key timeout => exact Or.inr (Or.inr (isHeld_of_control (control_setCooldown m s.now key timeout)))
  | setCityCooldown country code timeout =>
    exact Or.inr (Or.inr (isHeld_of_control (control_setCityCooldown m s.now country code timeout)))
  | replaceCatalog countries => exact Or.inr (Or.inr rfl)

theorem start_generation (s : Surroundings) (on : m.enabled = true) (free : m.isHeld = false)
    (idle : m.hasTransport = false) : (m.start s).generation = m.generation + 1 := by
  rcases start_cases m s with ⟨off, _⟩ | ⟨_, held, _⟩ | ⟨_, _, transport, _⟩ | ⟨_, _, _, same | same⟩
  · exact nomatch off.symm.trans on
  · exact nomatch held.symm.trans free
  · exact nomatch transport.symm.trans idle
  · obtain ⟨_, _, _, _, _, _, ticked⟩ := tick_shape m.prepared.opened.announce s.now
    rw [same, ticked]
    rfl
  · obtain ⟨_, _, _, stopped⟩ := stop_shape m.prepared s.now
    rw [same, stopped]
    rfl

theorem setTunnel_lifts {s : Surroundings} {tunnel : Tunnel} (awake : Awake m) (wants : m.wantsSweep = true)
    (lifted : (m.setTunnel s tunnel).isHeld = false) : (m.setTunnel s tunnel).generation = m.generation + 1 := by
  obtain ⟨on, idle⟩ := awake.wish wants
  rcases setTunnel_cases m s tunnel with ⟨_, same⟩ | ⟨_, _, same⟩ | ⟨_, unwanted, _⟩
  · have stays : (m.setTunnel s tunnel).isHeld = true := by
      rw [same, isHeld_of_frame (frame_stop _ _)]
      rfl
    exact nomatch stays.symm.trans lifted
  · rw [same] at lifted ⊢
    exact start_generation s on ((isHeld_of_frame (frame_start _ s)).symm.trans lifted) idle
  · exact nomatch wants.symm.trans unwanted

theorem setApplication_lifts {s : Surroundings} {application : Application} (awake : Awake m)
    (wants : m.wantsSweep = true) (lifted : (m.setApplication s application).isHeld = false) :
    (m.setApplication s application).generation = m.generation + 1 := by
  obtain ⟨on, idle⟩ := awake.wish wants
  rcases setApplication_cases m s application with
    ⟨_, transport, _⟩ | ⟨_, _, same⟩ | ⟨_, _, _, same⟩ | ⟨_, stays, same⟩
  · exact nomatch idle.symm.trans transport
  · rw [same] at lifted
    exact nomatch (isHeld_eq_false.mp lifted).2
  · rcases refresh_cases { m with application := .foreground } s with ⟨transport, _⟩ | ⟨_, begun⟩
    · exact nomatch idle.symm.trans transport
    · rw [same, begun] at lifted ⊢
      exact start_generation s on ((isHeld_of_frame (frame_start _ s)).symm.trans lifted) idle
  · rw [same] at lifted
    exact nomatch (stays wants).symm.trans (isHeld_eq_false.mp lifted).1

/-- The operation that ends the last hold begins the sweep that was wanted. -/
theorem lifting_begins {s : Surroundings} {op : Operation} (awake : Awake m) (wants : m.wantsSweep = true)
    (lifted : (m.step s op).isHeld = false) : (m.step s op).generation = m.generation + 1 := by
  have held := awake.held wants
  rcases step_isHeld m s op with ⟨tunnel, rfl⟩ | ⟨application, rfl⟩ | same
  · exact setTunnel_lifts awake wants lifted
  · exact setApplication_lifts awake wants lifted
  · exact nomatch held.symm.trans (same.symm.trans lifted)

/-- A monitor that is switched on and idle has its refresh alarm set, or is held back and begins a sweep with the
operation that lifts the last hold. -/
theorem monitor_never_stalls (config : Config) (catalog : Catalog) (first : Surroundings)
    {operations : List (Surroundings × Operation)} (lives : ∀ entry ∈ operations, entry.2 ≠ .shutdown) :
    let m := (ofConfig config catalog).run ((first, .activate) :: operations)
    (m.enabled = true → m.hasTransport = false →
      m.alarms.refresh.isSome ∨ m.isHeld = true ∧ m.wantsSweep = true) ∧
    (m.wantsSweep = true → m.isHeld = true ∧ m.enabled = true ∧ m.hasTransport = false) ∧
    (∀ s op, m.wantsSweep = true → m.isHeld = true → (m.step s op).isHeld = false →
      m.generation < (m.step s op).generation) := by
  intro m
  have activated : Awake ((ofConfig config catalog).activate first.now) := activate_awake first.now ⟨nofun, nofun⟩ nofun
  have awake : Awake m := run_keeps (I := Awake) (fun lives => step_awake _ lives) activated lives
  refine ⟨awake.waiting, fun wants => ⟨awake.held wants, awake.wish wants⟩, ?_⟩
  intro s op wants _ lifted
  rw [lifting_begins awake wants lifted]
  exact Nat.lt_succ_self _

/-- The refresh alarm rings while tunnel and application both hold the monitor back, and the tunnel is the
first to let go. -/
def overlappingHolds : List (Surroundings × Operation) :=
  [(⟨⟨100, 0⟩, true⟩, .setTunnel .active), (⟨⟨200, 0⟩, true⟩, .setApplication .background),
    (⟨⟨5000, 5⟩, true⟩, .ring), (⟨⟨6000, 6⟩, true⟩, .setTunnel .off)]

theorem overlappingHolds_awake :
    let m := (ofConfig {} ⟨[]⟩).run ((⟨⟨0, 0⟩, true⟩, .activate) :: overlappingHolds)
    (∀ entry ∈ overlappingHolds, entry.2 ≠ .shutdown) ∧
    m.wantsSweep = true ∧ m.alarms.refresh = none ∧ m.isHeld = true ∧ m.enabled = true ∧ m.hasTransport = false ∧
    m.generation < (m.step ⟨⟨7000, 7⟩, false⟩ (.setApplication .foreground)).generation := by
  have lives : ∀ entry ∈ overlappingHolds, entry.2 ≠ .shutdown := by
    simp [overlappingHolds]
  obtain ⟨_, wish, lifting⟩ := monitor_never_stalls {} ⟨[]⟩ ⟨⟨0, 0⟩, true⟩ lives
  obtain ⟨held, on, idle⟩ := wish rfl
  exact ⟨lives, rfl, rfl, held, on, idle, lifting _ _ rfl held rfl⟩

end RelayQuality.Monitor
