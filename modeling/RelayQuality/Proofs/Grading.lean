import RelayQuality.Rating

/-!
# When a city is unavailable

A freshly rated city is unavailable if and only if each of its relays has a cooldown that has not ended.
-/

namespace RelayQuality

namespace Cooldowns

theorem isSuppressed_iff {c : Cooldowns} {key : String} {now : Int} (positive : 0 ≤ now) :
    c.isSuppressed key now = true ↔ ∃ second, c.ends.get? key = some second ∧ now < second := by
  unfold isSuppressed endOf
  rw [decide_eq_true_iff]
  cases c.ends.get? key with
  | none =>
    simp only [Option.getD_none, reduceCtorEq, false_and, exists_false, iff_false]
    omega
  | some second => simp

end Cooldowns

namespace City

/-- Every relay of the city has a cooldown that ends after a second. -/
def IsSuppressed (city : City) (cooldowns : Cooldowns) (now : Int) : Prop :=
  ∀ key ∈ city.keys, ∃ second, cooldowns.ends.get? key = some second ∧ now < second

theorem IsSuppressed.earlier {city : City} {cooldowns : Cooldowns} {now later : Int} (order : now ≤ later)
    (suppressed : city.IsSuppressed cooldowns later) : city.IsSuppressed cooldowns now := by
  intro key member
  obtain ⟨second, found, after⟩ := suppressed key member
  exact ⟨second, found, Int.lt_of_le_of_lt order after⟩

end City

namespace Grade

theorem promoteIf_ne_unavailable {g : Grade} (condition : Bool) (available : g ≠ .unavailable) :
    g.promoteIf condition ≠ .unavailable := by
  cases condition <;> cases g <;> first | exact absurd rfl available | decide

end Grade

namespace Rating

variable {city : City} {samples : Samples} {cooldowns : Cooldowns} {now : Int}

theorem base_eq_unavailable_iff (r : Rating) (city : City) (origin : String) (cooldowns : Cooldowns) (now : Int) :
    r.base city origin cooldowns now = .unavailable ↔ ∀ key ∈ city.keys, cooldowns.isSuppressed key now = true := by
  have active : (activeKeys city.keys cooldowns now).length = 0 ↔
      ∀ key ∈ city.keys, cooldowns.isSuppressed key now = true := by
    simp only [activeKeys, List.length_eq_zero_iff, List.filter_eq_nil_iff, Bool.not_eq_true, Bool.not_eq_false']
  rw [← active]
  unfold base
  dsimp only
  split
  next none => simp [none]
  next some =>
    simp only [some, iff_false]
    exact Grade.promoteIf_ne_unavailable _ (Grade.promoteIf_ne_unavailable _ (by decide))

/-- Measured latency neither makes nor ends unavailability. -/
theorem grade_eq_unavailable_iff (r : Rating) (city : City) (origin : String) (samples : Samples) (cooldowns : Cooldowns)
    (now : Int) : r.grade city origin samples cooldowns now = .unavailable ↔
      ∀ key ∈ city.keys, cooldowns.isSuppressed key now = true := by
  rw [← base_eq_unavailable_iff r city origin cooldowns now]
  unfold grade
  dsimp only
  split
  next => rfl
  next rated =>
    have available : r.base city origin cooldowns now ≠ .unavailable := by
      intro same
      exact rated (Or.inl (by rw [same]; decide))
    simp only [available, iff_false]
    exact Grade.promoteIf_ne_unavailable _ (Grade.promoteIf_ne_unavailable _ available)

theorem grade_eq_unavailable (r : Rating) (origin : String) (positive : 0 ≤ now) :
    r.grade city origin samples cooldowns now = .unavailable ↔ city.IsSuppressed cooldowns now :=
  (r.grade_eq_unavailable_iff city origin samples cooldowns now).trans
    (forall₂_congr fun _ _ => Cooldowns.isSuppressed_iff positive)

end Rating

end RelayQuality
