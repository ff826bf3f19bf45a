import RelayQuality.Proofs.Grading
import RelayQuality.Proofs.Levels
import RelayQuality.Time.Clock

/-!
# Relays without a cooldown

The end that stands for a relay without a cooldown is the first second of the epoch. From then on such a relay is active.
Before, it counts as suppressed, and a city is unavailable unless one of its relays has a cooldown that ended.
-/

namespace RelayQuality

namespace Cooldowns

variable {c : Cooldowns} {key : String} {now : Int}

/-- The relay has a cooldown that is still to end. -/
def isCooling (c : Cooldowns) (key : String) (now : Int) : Bool := (c.ends.get? key).any (now < ·)

theorem isCooling_iff : c.isCooling key now = true ↔ ∃ second, c.ends.get? key = some second ∧ now < second := by
  simp [isCooling, Option.any_eq_true]

theorem isSuppressed_eq (c : Cooldowns) (key : String) (now : Int) :
    c.isSuppressed key now = (c.isCooling key now || (c.ends.get? key).isNone && decide (now < 0)) := by
  unfold isSuppressed endOf isCooling
  cases c.ends.get? key <;> simp

end Cooldowns

namespace Rating

variable {city : City} {cooldowns : Cooldowns} {now : Int}

/-- Relays without a cooldown are missing among the active ones before the epoch. -/
theorem length_activeKeys_add (keys : List String) (cooldowns : Cooldowns) (now : Int) :
    (activeKeys keys cooldowns now).length + keys.countP (fun key => (cooldowns.ends.get? key).isNone && decide (now < 0)) =
      keys.countP fun key => !cooldowns.isCooling key now := by
  rw [activeKeys, ← List.countP_eq_length_filter]
  induction keys with
  | nil => rfl
  | cons key rest ih =>
    rw [List.countP_cons, List.countP_cons, List.countP_cons, ← ih, Cooldowns.isSuppressed_eq]
    cases found : cooldowns.ends.get? key <;> cases decide (now < 0) <;> simp [Cooldowns.isCooling, found] <;> omega

theorem base_eq_unavailable_iff_ends (r : Rating) (city : City) (origin : String) (cooldowns : Cooldowns) (now : Int) :
    r.base city origin cooldowns now = .unavailable ↔
      ∀ key ∈ city.keys, (∃ second, cooldowns.ends.get? key = some second ∧ now < second) ∨
        cooldowns.ends.get? key = none ∧ now < 0 := by
  rw [base_eq_unavailable_iff]
  refine forall₂_congr fun key _ => ?_
  rw [Cooldowns.isSuppressed_eq, Bool.or_eq_true, Cooldowns.isCooling_iff, Bool.and_eq_true, Option.isNone_iff_eq_none,
    decide_eq_true_iff]

/-- Where the grade does not tell whether all relays have a cooldown still to end, one has no cooldown before the epoch,
and none has one that ended. -/
theorem base_agrees_iff (r : Rating) (city : City) (origin : String) (cooldowns : Cooldowns) (now : Int) :
    (r.base city origin cooldowns now = .unavailable ↔ city.IsSuppressed cooldowns now) ↔
      0 ≤ now ∨ (∀ key ∈ city.keys, ∃ second, cooldowns.ends.get? key = some second) ∨
        ∃ key ∈ city.keys, ∃ second, cooldowns.ends.get? key = some second ∧ second ≤ now := by
  rw [base_eq_unavailable_iff_ends]
  constructor
  · intro agrees
    by_contra strays
    obtain ⟨early, unlisted, pending⟩ := by simpa only [not_or] using strays
    have suppressed : city.IsSuppressed cooldowns now := by
      refine agrees.mp fun key member => ?_
      cases found : cooldowns.ends.get? key with
      | none => exact Or.inr ⟨rfl, by omega⟩
      | some second =>
        exact Or.inl ⟨second, rfl, Int.not_le.mp fun ended => pending ⟨key, member, second, found, ended⟩⟩
    exact unlisted fun key member => (suppressed key member).imp fun _ cooling => cooling.1
  · intro regular
    refine ⟨fun unavailable key member => (unavailable key member).resolve_right ?_, fun suppressed key member =>
      Or.inl (suppressed key member)⟩
    rintro ⟨absent, before⟩
    rcases regular with late | listed | ⟨other, member', second, found, ended⟩
    · omega
    · obtain ⟨second, found⟩ := listed key member
      exact nomatch absent.symm.trans found
    · rcases unavailable other member' with ⟨again, found', pending⟩ | ⟨absent', _⟩
      · obtain rfl := Option.some.inj (found.symm.trans found')
        omega
      · exact nomatch absent'.symm.trans found

theorem length_activeKeys_eq_iff (keys : List String) (cooldowns : Cooldowns) (now : Int) :
    (activeKeys keys cooldowns now).length = keys.countP (fun key => !cooldowns.isCooling key now) ↔
      0 ≤ now ∨ ∀ key ∈ keys, ∃ second, cooldowns.ends.get? key = some second := by
  have missing := length_activeKeys_add keys cooldowns now
  have none : keys.countP (fun key => (cooldowns.ends.get? key).isNone && decide (now < 0)) = 0 ↔
      0 ≤ now ∨ ∀ key ∈ keys, ∃ second, cooldowns.ends.get? key = some second := by
    by_cases late : 0 ≤ now
    · simp [late, Int.not_lt.mpr late]
    · simp [late, Int.not_le.mp late, List.countP_eq_zero, ← Option.isSome_iff_exists, Option.ne_none_iff_isSome]
  rw [← none]
  omega

/-- The base grade says whether every relay has a cooldown still to end exactly from the epoch on, or where each relay
has a cooldown, or where one has a cooldown that ended. -/
theorem absence_is_activity_iff (r : Rating) (city : City) (origin : String) (cooldowns : Cooldowns) (now : Int) :
    (r.base city origin cooldowns now = .unavailable ↔
      ∀ key ∈ city.keys, (∃ second, cooldowns.ends.get? key = some second ∧ now < second) ∨
        cooldowns.ends.get? key = none ∧ now < 0) ∧
    ((r.base city origin cooldowns now = .unavailable ↔ city.IsSuppressed cooldowns now) ↔
      0 ≤ now ∨ (∀ key ∈ city.keys, ∃ second, cooldowns.ends.get? key = some second) ∨
        ∃ key ∈ city.keys, ∃ second, cooldowns.ends.get? key = some second ∧ second ≤ now) ∧
    ((activeKeys city.keys cooldowns now).length = city.keys.countP (fun key => !cooldowns.isCooling key now) ↔
      0 ≤ now ∨ ∀ key ∈ city.keys, ∃ second, cooldowns.ends.get? key = some second) :=
  ⟨base_eq_unavailable_iff_ends r city origin cooldowns now, base_agrees_iff r city origin cooldowns now,
    length_activeKeys_eq_iff city.keys cooldowns now⟩

/-- Before the epoch a relay without any cooldown makes its city unavailable. -/
theorem unlisted_relay_suppressed :
    let now := (⟨-1, 0⟩ : ManualClock).reading.epoch
    now = -1 ∧ brisk.keys = ["a"] ∧ Cooldowns.empty.ends.get? "a" = none ∧
    (⟨3, 30⟩ : Rating).base brisk "" .empty now = .unavailable ∧ ¬ brisk.IsSuppressed .empty now ∧
    (activeKeys brisk.keys .empty now).length = 0 ∧
    brisk.keys.countP (fun key => !Cooldowns.empty.isCooling key now) = 1 := by
  intro now
  refine ⟨by decide, rfl, rfl, by decide, ?_, by decide, by decide⟩
  intro suppressed
  obtain ⟨_, found, _⟩ := suppressed "a" (by decide)
  cases found

end Rating

end RelayQuality
