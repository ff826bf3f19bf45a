import Mathlib.Data.List.Basic
import RelayQuality.Proofs.Course

/-!
# What changes samples

A record changes the sample of one key, and the mean of a city looks at its keys alone. Ratings and the course of
sweeps leave samples as they are or, where the monitor forgets, leave none.
-/

namespace RelayQuality

namespace Samples

theorem get?_record (s : Samples) (key other : String) (ms : Nat) :
    (s.record key ms).get? other = if other = key then some ms else s.get? other := by
  unfold record
  split <;> exact KeyMap.get?_insert _ _ _ _

theorem meanOf_congr {s t : Samples} {keys : List String} (same : ∀ key ∈ keys, s.get? key = t.get? key) :
    s.meanOf keys = t.meanOf keys := by
  have positive : s.positive keys = t.positive keys := by
    unfold positive
    rw [List.filterMap_congr same]
  rw [meanOf, meanOf, positive]

theorem meanOf_eq_zero {s : Samples} {keys : List String} (none : ∀ key ∈ keys, s.get? key = none) :
    s.meanOf keys = 0 := by
  have positive : s.positive keys = [] := by
    unfold Samples.positive
    rw [List.filterMap_eq_nil_iff.mpr none, List.filter_nil]
  rw [meanOf, positive]
  rfl

end Samples

namespace Monitor

theorem stop_samples (m : Monitor) (now : Reading) : (m.stop now).samples = m.samples := by
  obtain ⟨_, _, _, same⟩ := stop_shape m now
  rw [same]

theorem tick_samples (m : Monitor) (now : Reading) : (m.tick now).samples = m.samples := by
  obtain ⟨_, _, _, _, _, _, same⟩ := tick_shape m now
  rw [same]

theorem rerateKey_samples (m : Monitor) (now : Reading) (key : String) : (m.rerateKey now key).samples = m.samples := by
  unfold rerateKey rerateCity
  split
  · rw [markChanged_eq]
  · rfl

theorem start_samples (m : Monitor) (s : Surroundings) :
    (m.start s).samples = m.samples ∨ (m.start s).samples = .empty := by
  rcases start_cases m s with ⟨_, same⟩ | ⟨_, _, same⟩ | ⟨_, _, _, same⟩ | ⟨_, _, _, same | same⟩ <;> rw [same]
  · exact Or.inr rfl
  · exact Or.inl rfl
  · exact Or.inl rfl
  · exact Or.inl (tick_samples _ s.now)
  · exact Or.inl (stop_samples _ s.now)

theorem refresh_samples (m : Monitor) (s : Surroundings) :
    (m.refresh s).samples = m.samples ∨ (m.refresh s).samples = .empty := by
  rcases refresh_cases m s with ⟨_, same⟩ | ⟨_, same⟩ <;> rw [same]
  · exact Or.inl rfl
  · exact Or.inr ((start_samples m.clear s).elim id id)

theorem setEnabled_samples (m : Monitor) (s : Surroundings) (enabled : Bool) :
    (m.setEnabled s enabled).samples = m.samples ∨ (m.setEnabled s enabled).samples = .empty := by
  rcases setEnabled_cases m s enabled with ⟨_, same⟩ | ⟨_, _, same⟩ | ⟨_, _, _, rfl, same⟩ <;> rw [same]
  · exact Or.inl rfl
  · exact start_samples { m with enabled := true } s
  · exact Or.inr rfl

theorem setTunnel_samples (m : Monitor) (s : Surroundings) (tunnel : Tunnel) :
    (m.setTunnel s tunnel).samples = m.samples ∨ (m.setTunnel s tunnel).samples = .empty := by
  rcases setTunnel_cases m s tunnel with ⟨_, same⟩ | ⟨_, _, same⟩ | ⟨_, _, same⟩ <;> rw [same]
  · exact Or.inl (stop_samples _ s.now)
  · exact start_samples { m with tunnel := .off } s
  · exact Or.inl rfl

theorem setApplication_samples (m : Monitor) (s : Surroundings) (application : Application) :
    (m.setApplication s application).samples = m.samples ∨ (m.setApplication s application).samples = .empty := by
  rcases setApplication_cases m s application with
    ⟨_, _, same⟩ | ⟨_, _, same⟩ | ⟨_, _, _, same⟩ | ⟨_, _, same⟩ <;> rw [same]
  · exact Or.inl (stop_samples _ s.now)
  · exact Or.inl rfl
  · exact refresh_samples { m with application := .foreground } s
  · exact Or.inl rfl

theorem sweepRung_samples (m : Monitor) (s : Surroundings) :
    (m.sweepRung s).samples = m.samples ∨ (m.sweepRung s).samples = .empty := by
  have probed : (m.probeRung s).samples = m.samples := by
    unfold probeRung
    split
    · exact tick_samples _ s.now
    · rfl
  unfold sweepRung
  split
  · rw [← probed]
    exact start_samples _ s
  · exact Or.inl probed

theorem activate_samples (m : Monitor) (now : Reading) : (m.activate now).samples = m.samples := by
  unfold activate
  split <;> rfl

end Monitor

end RelayQuality
