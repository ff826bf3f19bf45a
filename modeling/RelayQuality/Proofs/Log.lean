import Mathlib.Data.List.Infix
import RelayQuality.Proofs.Course

/-!
# The log only grows

What an operation does stands in front of what was done before. Ratings and cooldowns write nothing.
-/

namespace RelayQuality.Monitor

/-! ### What writes nothing -/

@[simp] theorem log_markChanged (m : Monitor) (now : Nat) : (m.markChanged now).log = m.log := by
  rw [markChanged_eq]

@[simp] theorem log_rerateCity (m : Monitor) (now : Reading) (p : Position) : (m.rerateCity now p).log = m.log :=
  log_markChanged _ _

@[simp] theorem log_rerateKey (m : Monitor) (now : Reading) (key : String) : (m.rerateKey now key).log = m.log := by
  unfold rerateKey
  split
  · exact log_rerateCity _ _ _
  · rfl

@[simp] theorem log_rerateAll (m : Monitor) (now : Reading) : (m.rerateAll now).log = m.log := log_markChanged _ _

@[simp] theorem log_setCooldown (m : Monitor) (now : Reading) (key : String) (timeout : Int) :
    (m.setCooldown now key timeout).log = m.log := log_rerateKey _ _ _

@[simp] theorem log_setCityCooldown (m : Monitor) (now : Reading) (country code : String) (timeout : Int) :
    (m.setCityCooldown now country code timeout).2.log = m.log := by
  unfold setCityCooldown
  split
  · rfl
  · dsimp only
    split
    · exact log_rerateCity _ _ _
    · exact log_markChanged _ _

@[simp] theorem log_clearExpiredCooldowns (m : Monitor) (now : Reading) :
    (m.clearExpiredCooldowns now).log = m.log :=
  rerateKeys_keep (I := fun n => n.log = m.log) (log_rerateKey _ _ _).trans _ rfl

@[simp] theorem log_answered (m : Monitor) (now : Reading) (p : Probe) : (m.answered now p).log = m.log :=
  log_rerateKey _ _ _

/-! ### What writes -/

theorem suffix_of_same {m n : Monitor} (same : n.log = m.log) : m.log <:+ n.log := by
  rw [same]

theorem stop_log (m : Monitor) (now : Reading) : m.log <:+ (m.stop now).log := by
  rw [stop_eq]
  exact List.suffix_cons _ _

theorem tick_log (m : Monitor) (now : Reading) : m.log <:+ (m.tick now).log := by
  have advanced : m.log <:+ (m.advanced now.millis).log := by
    rw [advanced_eq]
    exact List.suffix_append _ _
  rcases tick_cases m now with ⟨_, same⟩ | ⟨_, _, same⟩ | ⟨_, p, rest, _, same⟩ <;> rw [same]
  · exact advanced.trans (stop_log _ now)
  · exact advanced

theorem start_log (m : Monitor) (s : Surroundings) : m.log <:+ (m.start s).log := by
  rcases start_cases m s with ⟨_, same⟩ | ⟨_, _, same⟩ | ⟨_, _, _, same⟩ | ⟨_, _, _, same | same⟩ <;> rw [same]
  · exact List.suffix_cons _ _
  · have opened : m.log <:+ m.prepared.opened.announce.log := (List.suffix_cons _ _).trans (List.suffix_cons _ _)
    exact opened.trans (tick_log _ s.now)
  · exact stop_log m.prepared s.now

theorem refresh_log (m : Monitor) (s : Surroundings) : m.log <:+ (m.refresh s).log := by
  rcases refresh_cases m s with ⟨_, same⟩ | ⟨_, same⟩ <;> rw [same]
  exact (List.suffix_cons _ _).trans (start_log m.clear s)

theorem hearReply_log (m : Monitor) (now : Reading) (n : UInt16) : m.log <:+ (m.hearReply now n).log := by
  rcases hearReply_cases m now n with ⟨_, same⟩ | ⟨_, p, _, _, same⟩ <;> rw [same]
  have ticked := tick_log (m.answered now p) now
  rwa [log_answered] at ticked

theorem hear_log (m : Monitor) (now : Reading) (event : TransportEvent) : m.log <:+ (m.hear now event).log :=
  hear_keeps (I := fun n => m.log <:+ n.log) (List.suffix_refl _) (hearReply_log m now) event

theorem sweepRung_log (m : Monitor) (s : Surroundings) : m.log <:+ (m.sweepRung s).log := by
  have probed : m.log <:+ (m.probeRung s).log := by
    unfold probeRung
    split
    · exact tick_log { m with alarms := m.alarms.afterRinging s.now.millis } s.now
    · exact List.suffix_refl _
  unfold sweepRung
  split
  · exact probed.trans (start_log _ s)
  · exact probed

theorem ring_log (m : Monitor) (s : Surroundings) : m.log <:+ (m.ring s).log := by
  have swept := sweepRung_log m s
  refine ring_keeps (I := fun n => m.log <:+ n.log) swept ?_ ?_
  · intro n grown
    rwa [log_clearExpiredCooldowns]
  · exact fun grown => grown.trans (List.suffix_cons _ _)

theorem setEnabled_log (m : Monitor) (s : Surroundings) (enabled : Bool) :
    m.log <:+ (m.setEnabled s enabled).log := by
  rcases setEnabled_cases m s enabled with ⟨_, same⟩ | ⟨_, _, same⟩ | ⟨_, _, _, rfl, same⟩ <;> rw [same]
  · exact start_log { m with enabled := true } s
  · exact (List.suffix_cons _ _).trans (List.suffix_cons _ _)

theorem setTunnel_log (m : Monitor) (s : Surroundings) (tunnel : Tunnel) : m.log <:+ (m.setTunnel s tunnel).log := by
  rcases setTunnel_cases m s tunnel with ⟨_, same⟩ | ⟨_, _, same⟩ | ⟨_, _, same⟩ <;> rw [same]
  · exact stop_log { m with tunnel := .active, wantsSweep := m.wantsSweep || m.hasTransport } s.now
  · exact start_log { m with tunnel := .off } s

theorem setApplication_log (m : Monitor) (s : Surroundings) (application : Application) :
    m.log <:+ (m.setApplication s application).log := by
  rcases setApplication_cases m s application with
    ⟨_, _, same⟩ | ⟨_, _, same⟩ | ⟨_, _, _, same⟩ | ⟨_, _, same⟩ <;> rw [same]
  · exact stop_log { m with application := .background, wantsSweep := true } s.now
  · exact refresh_log { m with application := .foreground } s

theorem step_log (m : Monitor) (s : Surroundings) (op : Operation) : m.log <:+ (m.step s op).log := by
  cases op with
  | activate =>
    rw [step, activate]
    split <;> exact List.suffix_refl _
  | start => exact start_log m s
  | stop => exact stop_log m s.now
  | refresh => exact refresh_log m s
  | clear => exact List.suffix_cons _ _
  | shutdown => exact List.suffix_cons _ _
  | tick => exact tick_log m s.now
  | ring => exact ring_log m s
  | catalogChanged => exact start_log m s
  | clearExpiredCooldowns => exact suffix_of_same (log_clearExpiredCooldowns m s.now)
  | hearReply n => exact hearReply_log m s.now n
  | hear event => exact hear_log m s.now event
  | setEnabled enabled => exact setEnabled_log m s enabled
  | setObserver o => exact suffix_of_same (log_rerateAll _ s.now)
  | setTunnel tunnel => exact setTunnel_log m s tunnel
  | setApplication application => exact setApplication_log m s application
  | recordLatency key ms => exact suffix_of_same (log_rerateKey _ s.now key)
  | setCooldown key timeout => exact suffix_of_same (log_setCooldown m s.now key timeout)
  | setCityCooldown country code timeout => exact suffix_of_same (log_setCityCooldown m s.now country code timeout)
  | replaceCatalog countries => exact List.suffix_refl _

end RelayQuality.Monitor
