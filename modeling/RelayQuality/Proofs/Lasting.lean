import RelayQuality.Proofs.Course
import RelayQuality.Proofs.Run

/-!
# What lasts in a sweep

An operation can begin and end the sweep, carry it on and take answered probes out of its table, and nothing else. So
what these keep holds of the sweep after every run (`run_lasting`).
-/

namespace RelayQuality

/-- Whatever becomes of a sweep, this goes on to hold. -/
structure Sweep.Lasting (I : Sweep → Prop) : Prop where
  clear : ∀ {s}, I s → I s.clear
  load : ∀ {s} (records), I s → I (s.load records)
  advanced : ∀ {s} (now), I s → I (s.advanced now)
  answered : ∀ {s} (n), I s → I (s.answered n)

namespace Monitor

open Sweep (Lasting)

variable {I : Sweep → Prop} {m n : Monitor}

theorem holds_of_control (holds : I m.sweep) (same : n.control = m.control) : I n.sweep := by
  have sweep : n.sweep = m.sweep := congrArg Control.sweep same
  rwa [sweep]

theorem stop_lasting (lasting : Lasting I) (now : Reading) (holds : I m.sweep) : I (m.stop now).sweep := by
  rw [stop_eq]
  exact lasting.clear holds

theorem tick_lasting (lasting : Lasting I) (now : Reading) (holds : I m.sweep) : I (m.tick now).sweep := by
  have advanced : I (m.advanced now.millis).sweep := by
    rw [advanced_eq]
    exact lasting.advanced now.millis holds
  rcases tick_cases m now with ⟨_, same⟩ | ⟨_, _, same⟩ | ⟨_, p, rest, _, same⟩ <;> rw [same]
  · exact holds
  · exact stop_lasting lasting now advanced
  · exact advanced

theorem start_lasting (lasting : Lasting I) (s : Surroundings) (holds : I m.sweep) : I (m.start s).sweep := by
  have prepared : I m.prepared.sweep := lasting.load m.roster holds
  rcases start_cases m s with ⟨_, same⟩ | ⟨_, _, same⟩ | ⟨_, _, _, same⟩ | ⟨_, _, _, same | same⟩ <;> rw [same]
  · exact holds
  · exact holds
  · exact holds
  · exact tick_lasting lasting s.now prepared
  · exact stop_lasting lasting s.now prepared

theorem refresh_lasting (lasting : Lasting I) (s : Surroundings) (holds : I m.sweep) : I (m.refresh s).sweep := by
  rcases refresh_cases m s with ⟨_, same⟩ | ⟨_, same⟩ <;> rw [same]
  · exact holds
  · exact start_lasting lasting s holds

theorem hearReply_lasting (lasting : Lasting I) (now : Reading) (k : UInt16) (holds : I m.sweep) :
    I (m.hearReply now k).sweep := by
  rcases hearReply_cases m now k with ⟨_, same⟩ | ⟨_, p, _, _, same⟩ <;> rw [same]
  · exact holds
  · refine tick_lasting lasting now ?_
    exact holds_of_control (m := { m with sweep := m.sweep.answered p.sequence }) (lasting.answered _ holds)
      (control_answered m now p)

theorem hear_lasting (lasting : Lasting I) (now : Reading) (event : TransportEvent) (holds : I m.sweep) :
    I (m.hear now event).sweep :=
  hear_keeps (I := fun n => I n.sweep) holds (fun k => hearReply_lasting lasting now k holds) event

theorem ring_lasting (lasting : Lasting I) (s : Surroundings) (holds : I m.sweep) : I (m.ring s).sweep := by
  have probed : I (m.probeRung s).sweep := by
    unfold probeRung
    split
    · exact tick_lasting lasting s.now holds
    · exact holds
  refine holds_of_control ?_ (control_ring m s)
  unfold sweepRung
  split
  · exact start_lasting lasting s probed
  · exact probed

theorem setEnabled_lasting (lasting : Lasting I) (s : Surroundings) (enabled : Bool) (holds : I m.sweep) :
    I (m.setEnabled s enabled).sweep := by
  rcases setEnabled_cases m s enabled with ⟨_, same⟩ | ⟨_, _, same⟩ | ⟨_, _, _, rfl, same⟩ <;> rw [same]
  · exact holds
  · exact start_lasting lasting s holds
  · exact lasting.clear holds

theorem setTunnel_lasting (lasting : Lasting I) (s : Surroundings) (tunnel : Tunnel) (holds : I m.sweep) :
    I (m.setTunnel s tunnel).sweep := by
  rcases setTunnel_cases m s tunnel with ⟨_, same⟩ | ⟨_, _, same⟩ | ⟨_, _, same⟩ <;> rw [same]
  · exact stop_lasting lasting s.now holds
  · exact start_lasting lasting s holds
  · exact holds

theorem setApplication_lasting (lasting : Lasting I) (s : Surroundings) (application : Application)
    (holds : I m.sweep) : I (m.setApplication s application).sweep := by
  rcases setApplication_cases m s application with
    ⟨_, _, same⟩ | ⟨_, _, same⟩ | ⟨_, _, _, same⟩ | ⟨_, _, same⟩ <;> rw [same]
  · exact stop_lasting lasting s.now holds
  · exact holds
  · exact refresh_lasting lasting s holds
  · exact holds

theorem step_lasting (lasting : Lasting I) (s : Surroundings) (op : Operation) (holds : I m.sweep) :
    I (m.step s op).sweep := by
  cases op with
  | activate =>
    rw [step, activate]
    split <;> exact holds
  | start => exact start_lasting lasting s holds
  | stop => exact stop_lasting lasting s.now holds
  | refresh => exact refresh_lasting lasting s holds
  | clear => exact holds
  | shutdown => exact lasting.clear holds
  | tick => exact tick_lasting lasting s.now holds
  | ring => exact ring_lasting lasting s holds
  | catalogChanged => exact start_lasting lasting s holds
  | clearExpiredCooldowns => exact holds_of_control holds (control_clearExpiredCooldowns m s.now)
  | hearReply k => exact hearReply_lasting lasting s.now k holds
  | hear event => exact hear_lasting lasting s.now event holds
  | setEnabled enabled => exact setEnabled_lasting lasting s enabled holds
  | setObserver o => exact holds_of_control holds (control_setObserver m s.now o)
  | setTunnel tunnel => exact setTunnel_lasting lasting s tunnel holds
  | setApplication application => exact setApplication_lasting lasting s application holds
  | recordLatency key ms => exact holds_of_control holds (control_recordLatency m s.now key ms)
  | setCooldown key timeout => exact holds_of_control holds (control_setCooldown m s.now key timeout)
  | setCityCooldown country code timeout =>
    exact holds_of_control holds (control_setCityCooldown m s.now country code timeout)
  | replaceCatalog countries => exact holds

theorem run_lasting (lasting : Lasting I) (holds : I m.sweep) (operations : List (Surroundings × Operation)) :
    I (m.run operations).sweep :=
  run_keeps (I := fun n => I n.sweep) (fun _ => step_lasting lasting _ _) holds fun _ _ => trivial

end Monitor

end RelayQuality
