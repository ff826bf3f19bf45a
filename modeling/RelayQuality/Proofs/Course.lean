import RelayQuality.Proofs.Control
import RelayQuality.Proofs.Table

/-!
# The course of a sweep

`tick_cases` says all that a tick can do: nothing, end the sweep, or wait for exactly the deadline of the
oldest probe in flight. `start_cases` does the same for the beginning of a sweep.
-/

namespace RelayQuality

namespace Sweep

/-- The sweep after its timeouts and the transmissions that follow. -/
def advanced (s : Sweep) (now : Nat) : Sweep := (s.expired now).filled now

/-- All transmissions of a moment, in order. -/
def sends (s : Sweep) (now : Nat) : List Dispatch := (s.expire now).1.retried ++ ((s.expired now).fill now).1

@[simp] theorem advanced_pace (s : Sweep) (now : Nat) : (s.advanced now).pace = s.pace := rfl

theorem length_advanced_le (s : Sweep) (now : Nat) :
    (s.advanced now).flying.length + (s.advanced now).queue.length ≤ s.flying.length + s.queue.length := by
  have filled := length_filled (s.expired now) now
  have expired := length_expired_le s now
  rw [expired_queue] at filled
  simp only [advanced]
  omega

/-- A probe at the front was found not to be due, or was sent now into an empty table. -/
theorem advanced_front {s : Sweep} {now : Nat} {p : Probe} (front : (s.advanced now).flying.head? = some p) :
    now < p.deadline s.pace.timeout ∨ p.sentAt = now := by
  have table : (s.advanced now).flying = (s.expired now).flying ++ (s.expired now).launches now := rfl
  rw [table, List.head?_append] at front
  cases waiting : (s.expired now).flying.head? with
  | some q =>
    simp only [waiting, Option.some_or, Option.some.injEq] at front
    exact Or.inl (front ▸ expired_settled waiting)
  | none =>
    simp only [waiting, Option.none_or, launches] at front
    cases boarding : (s.expired now).boarding with
    | nil => simp [boarding] at front
    | cons q rest =>
      simp only [boarding, launch_cons, List.head?_cons, Option.some.injEq] at front
      exact Or.inr (front ▸ rfl)

theorem deadline_advanced {s : Sweep} {now : Nat} {p : Probe} (front : (s.advanced now).flying.head? = some p) :
    min now Millis.last ≤ p.deadline s.pace.timeout := by
  rcases advanced_front front with later | rfl
  · exact Nat.le_trans (Nat.min_le_left _ _) (Nat.le_of_lt later)
  · simp only [Probe.deadline, Millis.add]
    omega

end Sweep

/-- The part of the monitor that the course of sweeps leaves alone. -/
structure Frame where
  config : Config
  catalog : Catalog
  cooldowns : Cooldowns
  observer : Option Observer
  tunnel : Tunnel
  application : Application

namespace Monitor

/-! ### Ticks -/

/-- The monitor after timeouts and transmissions, before it waits again. -/
def advanced (m : Monitor) (now : Nat) : Monitor := ((m.expire now).fill now).markChanged now

theorem advanced_eq (m : Monitor) (now : Nat) :
    m.advanced now =
      { m with
        sweep := m.sweep.advanced now
        alarms.progress := some (m.alarms.progress.getD (Millis.add now m.config.progressDelay.millis))
        log := ((m.sweep.sends now).map fun d => Effect.sent m.generation d now).reverse ++ m.log } := by
  rw [advanced, markChanged_eq]
  simp [expire, fill, transmit, Sweep.advanced, Sweep.sends, Sweep.expired, Sweep.fill]

theorem stop_eq (m : Monitor) (now : Reading) :
    m.stop now =
      { m.halt with alarms.refresh :=
          if m.enabled && m.alarms.refresh.isNone then some (Millis.add now.millis m.config.refreshInterval.millis)
          else m.alarms.refresh } := by
  have unchanged : m.halt.enabled = m.enabled ∧ m.halt.alarms.refresh = m.alarms.refresh := ⟨rfl, rfl⟩
  simp only [stop, unchanged]
  split <;> rfl

theorem tick_cases (m : Monitor) (now : Reading) :
    (m.hasTransport = false ∧ m.tick now = m) ∨
    (m.hasTransport = true ∧ (m.sweep.advanced now.millis).flying = [] ∧
      m.tick now = (m.advanced now.millis).stop now) ∨
    (m.hasTransport = true ∧ ∃ p rest, (m.sweep.advanced now.millis).flying = p :: rest ∧
      m.tick now = { m.advanced now.millis with alarms.probe := some (p.deadline m.sweep.pace.timeout) }) := by
  cases transport : m.hasTransport with
  | false => exact Or.inl ⟨rfl, by simp [tick, transport]⟩
  | true =>
    have ticked : m.tick now = (m.advanced now.millis).awaitTimeout now := by simp [tick, transport, advanced]
    have sweep : (m.advanced now.millis).sweep = m.sweep.advanced now.millis := by rw [advanced_eq]
    cases table : (m.sweep.advanced now.millis).flying with
    | nil =>
      refine Or.inr (Or.inl ⟨rfl, rfl, ?_⟩)
      simp [ticked, awaitTimeout, Sweep.nextTimeout?, sweep, table]
    | cons p rest =>
      have late : min now.millis Millis.last ≤ p.deadline m.sweep.pace.timeout :=
        Sweep.deadline_advanced (by rw [table]; rfl)
      have bound : p.deadline m.sweep.pace.timeout ≤ Millis.last := Millis.add_le_last _ _
      have same : Millis.add now.millis (p.deadline m.sweep.pace.timeout - now.millis) =
          p.deadline m.sweep.pace.timeout := by
        simp only [Millis.add]
        omega
      refine Or.inr (Or.inr ⟨rfl, p, rest, rfl, ?_⟩)
      simp [ticked, awaitTimeout, Sweep.nextTimeout?, sweep, table, same]

/-! ### Beginnings -/

theorem start_cases (m : Monitor) (s : Surroundings) :
    (m.enabled = false ∧ m.start s = m.clear) ∨
    (m.enabled = true ∧ m.isHeld = true ∧ m.start s = { m with wantsSweep := true }) ∨
    (m.enabled = true ∧ m.isHeld = false ∧ m.hasTransport = true ∧ m.start s = m) ∨
    (m.enabled = true ∧ m.isHeld = false ∧ m.hasTransport = false ∧
      (m.start s = m.prepared.opened.announce.tick s.now ∨ m.start s = m.prepared.stop s.now)) := by
  unfold start
  cases m.enabled <;> cases m.isHeld <;> cases m.hasTransport <;> cases s.transportOpens <;> simp

theorem refresh_cases (m : Monitor) (s : Surroundings) :
    (m.hasTransport = true ∧ m.refresh s = m) ∨ (m.hasTransport = false ∧ m.refresh s = m.clear.start s) := by
  unfold refresh
  cases m.hasTransport <;> simp

/-! ### Switch, tunnel and application -/

theorem setEnabled_cases (m : Monitor) (s : Surroundings) (enabled : Bool) :
    (m.enabled = enabled ∧ m.setEnabled s enabled = m) ∨
    (m.enabled = false ∧ enabled = true ∧ m.setEnabled s enabled = start { m with enabled := true } s) ∨
    (m.enabled = true ∧ enabled = false ∧ ∃ halted, halted = halt { m with enabled := false } ∧
      m.setEnabled s enabled = clear { halted with alarms.refresh := none, wantsSweep := false }) := by
  unfold setEnabled
  cases m.enabled <;> cases enabled <;> simp

theorem setTunnel_cases (m : Monitor) (s : Surroundings) (tunnel : Tunnel) :
    (tunnel = .active ∧ m.setTunnel s tunnel =
      stop { m with tunnel := .active, wantsSweep := m.wantsSweep || m.hasTransport } s.now) ∨
    (tunnel = .off ∧ m.wantsSweep = true ∧ m.setTunnel s tunnel = start { m with tunnel := .off } s) ∨
    (tunnel = .off ∧ m.wantsSweep = false ∧ m.setTunnel s tunnel = { m with tunnel := .off }) := by
  unfold setTunnel
  cases tunnel <;> cases m.wantsSweep <;> simp

theorem setApplication_cases (m : Monitor) (s : Surroundings) (application : Application) :
    (application = .background ∧ m.hasTransport = true ∧ m.setApplication s application =
      stop { m with application := .background, wantsSweep := true } s.now) ∨
    (application = .background ∧ m.hasTransport = false ∧
      m.setApplication s application = { m with application := .background }) ∨
    (application = .foreground ∧ m.wantsSweep = true ∧ m.tunnel = .off ∧
      m.setApplication s application = refresh { m with application := .foreground } s) ∨
    (application = .foreground ∧ (m.wantsSweep = true → m.tunnel = .active) ∧
      m.setApplication s application = { m with application := .foreground }) := by
  unfold setApplication
  cases application <;> cases m.hasTransport <;> cases m.wantsSweep <;> cases m.tunnel <;> simp

/-! ### What a sweep leaves alone -/

theorem stop_shape (m : Monitor) (now : Reading) :
    ∃ sweep refresh log, m.stop now =
      { m with hasTransport := false, sweep, log, alarms := ⟨none, refresh, m.alarms.cooldown, none⟩ } := by
  rw [stop_eq]
  exact ⟨_, _, _, rfl⟩

theorem tick_shape (m : Monitor) (now : Reading) :
    ∃ hasTransport sweep probe refresh progress log, m.tick now =
      { m with hasTransport, sweep, log, alarms := ⟨probe, refresh, m.alarms.cooldown, progress⟩ } := by
  rcases tick_cases m now with ⟨_, same⟩ | ⟨_, _, same⟩ | ⟨_, p, rest, _, same⟩
  · exact ⟨_, _, _, _, _, _, same⟩
  · obtain ⟨sweep, refresh, log, stopped⟩ := stop_shape (m.advanced now.millis) now
    rw [same, stopped, advanced_eq]
    exact ⟨_, _, _, _, _, _, rfl⟩
  · rw [same, advanced_eq]
    exact ⟨_, _, _, _, _, _, rfl⟩

theorem start_shape (m : Monitor) (s : Surroundings) :
    ∃ generation hasTransport sweep samples wantsSweep probe refresh progress log, m.start s =
      { m with generation, hasTransport, sweep, samples, wantsSweep, log
               alarms := ⟨probe, refresh, m.alarms.cooldown, progress⟩ } := by
  rcases start_cases m s with ⟨_, same⟩ | ⟨_, _, same⟩ | ⟨_, _, _, same⟩ | ⟨_, _, _, same | same⟩
  · exact ⟨_, _, _, _, _, _, _, _, _, same⟩
  · exact ⟨_, _, _, _, _, _, _, _, _, same⟩
  · exact ⟨_, _, _, _, _, _, _, _, _, same⟩
  · obtain ⟨_, _, _, _, _, _, ticked⟩ := tick_shape m.prepared.opened.announce s.now
    rw [same, ticked]
    exact ⟨_, _, _, _, _, _, _, _, _, rfl⟩
  · obtain ⟨_, _, _, stopped⟩ := stop_shape m.prepared s.now
    rw [same, stopped]
    exact ⟨_, _, _, _, _, _, _, _, _, rfl⟩

/-- The part of the monitor that the course of sweeps leaves alone. -/
def frame (m : Monitor) : Frame := ⟨m.config, m.catalog, m.cooldowns, m.observer, m.tunnel, m.application⟩

theorem isHeld_of_frame {m n : Monitor} (same : n.frame = m.frame) : n.isHeld = m.isHeld := by
  have tunnel : n.tunnel = m.tunnel := congrArg Frame.tunnel same
  have application : n.application = m.application := congrArg Frame.application same
  rw [isHeld, isHeld, tunnel, application]

@[simp] theorem frame_stop (m : Monitor) (now : Reading) : (m.stop now).frame = m.frame := by
  obtain ⟨_, _, _, same⟩ := stop_shape m now
  rw [same]
  rfl

@[simp] theorem frame_tick (m : Monitor) (now : Reading) : (m.tick now).frame = m.frame := by
  obtain ⟨_, _, _, _, _, _, same⟩ := tick_shape m now
  rw [same]
  rfl

@[simp] theorem frame_start (m : Monitor) (s : Surroundings) : (m.start s).frame = m.frame := by
  obtain ⟨_, _, _, _, _, _, _, _, _, same⟩ := start_shape m s
  rw [same]
  rfl

@[simp] theorem frame_refresh (m : Monitor) (s : Surroundings) : (m.refresh s).frame = m.frame := by
  rcases refresh_cases m s with ⟨_, same⟩ | ⟨_, same⟩ <;> rw [same]
  exact frame_start m.clear s

@[simp] theorem frame_setEnabled (m : Monitor) (s : Surroundings) (enabled : Bool) :
    (m.setEnabled s enabled).frame = m.frame := by
  rcases setEnabled_cases m s enabled with ⟨_, same⟩ | ⟨_, _, same⟩ | ⟨_, _, _, rfl, same⟩ <;> rw [same]
  · exact frame_start _ s
  · rfl

@[simp] theorem frame_activate (m : Monitor) (now : Reading) : (m.activate now).frame = m.frame := by
  unfold activate
  split <;> rfl

theorem setTunnel_catalog (m : Monitor) (s : Surroundings) (tunnel : Tunnel) :
    (m.setTunnel s tunnel).catalog = m.catalog := by
  rcases setTunnel_cases m s tunnel with ⟨_, same⟩ | ⟨_, _, same⟩ | ⟨_, _, same⟩ <;> rw [same]
  · exact congrArg Frame.catalog (frame_stop _ s.now)
  · exact congrArg Frame.catalog (frame_start _ s)

theorem setApplication_catalog (m : Monitor) (s : Surroundings) (application : Application) :
    (m.setApplication s application).catalog = m.catalog := by
  rcases setApplication_cases m s application with
    ⟨_, _, same⟩ | ⟨_, _, same⟩ | ⟨_, _, _, same⟩ | ⟨_, _, same⟩ <;> rw [same]
  · exact congrArg Frame.catalog (frame_stop _ s.now)
  · exact congrArg Frame.catalog (frame_refresh _ s)

/-! ### Answers -/

/-- The monitor after an answer was taken out of the table and kept as a sample. -/
def answered (m : Monitor) (now : Reading) (p : Probe) : Monitor :=
  { m with sweep := m.sweep.answered p.sequence }.recordLatency now p.key (now.millis - p.sentAt)

@[simp] theorem control_answered (m : Monitor) (now : Reading) (p : Probe) :
    (m.answered now p).control = { m.control with sweep := m.sweep.answered p.sequence } :=
  control_recordLatency _ _ _ _

theorem hearReply_cases (m : Monitor) (now : Reading) (n : UInt16) :
    ((m.hasTransport = true → ∀ p ∈ m.sweep.flying, p.sequence ≠ n) ∧ m.hearReply now n = m) ∨
    (m.hasTransport = true ∧ ∃ p ∈ m.sweep.flying, p.sequence = n ∧
      m.hearReply now n = (m.answered now p).tick now) := by
  unfold hearReply
  by_cases transport : m.hasTransport = true
  · rw [if_pos transport]
    split
    next missed => exact Or.inl ⟨fun _ => Sweep.takeReply_none missed, rfl⟩
    next reply rest taken =>
      obtain ⟨p, member, rfl, rfl, rfl⟩ := Sweep.takeReply_some taken
      exact Or.inr ⟨transport, p, member, rfl, rfl⟩
  · rw [if_neg transport]
    exact Or.inl ⟨fun opened => absurd opened transport, rfl⟩

theorem hear_reply (m : Monitor) (now : Reading) (g : Nat) (n : UInt16) :
    m.hear now ⟨g, .reply n⟩ = if g = m.generation then m.hearReply now n else m := by
  unfold hear
  by_cases same : g = m.generation
  · cases transport : m.hasTransport <;> simp [same, hearReply, transport]
  · simp [same]

theorem hear_failure (m : Monitor) (now : Reading) (g : Nat) (text : String) :
    m.hear now ⟨g, .failure text⟩ = m := ite_self _

/-- What an answer to a number keeps, all news keeps. -/
theorem hear_keeps {I : Monitor → Prop} {m : Monitor} {now : Reading} (holds : I m)
    (replied : ∀ k, I (m.hearReply now k)) (event : TransportEvent) : I (m.hear now event) := by
  obtain ⟨g, k | text⟩ := event
  · rw [hear_reply]
    split
    · exact replied k
    · exact holds
  · rw [hear_failure]
    exact holds

/-! ### Alarms -/

/-- The monitor after the probe alarm had its turn. -/
def probeRung (m : Monitor) (s : Surroundings) : Monitor :=
  let rested := { m with alarms := m.alarms.afterRinging s.now.millis }
  if Alarms.isDue m.alarms.probe s.now.millis then rested.tick s.now else rested

/-- The monitor after probe and refresh alarm had their turns. -/
def sweepRung (m : Monitor) (s : Surroundings) : Monitor :=
  if Alarms.isDue m.alarms.refresh s.now.millis then (m.probeRung s).start s else m.probeRung s

@[simp] theorem frame_probeRung (m : Monitor) (s : Surroundings) : (m.probeRung s).frame = m.frame := by
  unfold probeRung
  split
  · exact frame_tick _ _
  · rfl

@[simp] theorem frame_sweepRung (m : Monitor) (s : Surroundings) : (m.sweepRung s).frame = m.frame := by
  unfold sweepRung
  split
  · rw [frame_start, frame_probeRung]
  · exact frame_probeRung m s

theorem ring_eq (m : Monitor) (s : Surroundings) :
    m.ring s =
      let cooled := if Alarms.isDue m.alarms.cooldown s.now.millis then (m.sweepRung s).clearExpiredCooldowns s.now
        else m.sweepRung s
      if Alarms.isDue m.alarms.progress s.now.millis then cooled.announce else cooled := rfl

/-- What holds after the turn of the sweep, and which neither the end of cooldowns nor a notice breaks, holds after
the ring. -/
theorem ring_keeps {I : Monitor → Prop} {m : Monitor} {s : Surroundings} (swept : I (m.sweepRung s))
    (cooled : ∀ {n}, I n → I (n.clearExpiredCooldowns s.now)) (told : ∀ {n}, I n → I n.announce) : I (m.ring s) := by
  rw [ring_eq]
  dsimp only
  split <;> split
  · exact told (cooled swept)
  · exact told swept
  · exact cooled swept
  · exact swept

theorem control_ring (m : Monitor) (s : Surroundings) : (m.ring s).control = (m.sweepRung s).control :=
  ring_keeps (I := fun n => n.control = (m.sweepRung s).control) rfl (control_clearExpiredCooldowns _ _).trans id

end Monitor

end RelayQuality
