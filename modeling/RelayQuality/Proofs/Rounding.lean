import RelayQuality.Proofs.Levels

/-!
# What rounding costs a faster city

A smaller sample lowers the mean of its city by at least as much as the mean of all, so that a city which was faster than
the mean stays faster. Both means are rounded up, though, and may then meet (`ceilMean_meets`). Only there a faster
answer costs the city a step.
-/

namespace RelayQuality

/-! ### Two rounded means -/

section Means

variable {part whole few many less : Nat}

/-- Two sums become smaller by the same amount, and the sum of fewer items had the smaller mean. -/
theorem ceilMean_meets (some : 0 < few) (more : few ≤ many)
    (below : ceilMean (part + less) few < ceilMean (whole + less) many) :
    ceilMean part few ≤ ceilMean whole many := by
  have some' : 0 < many := Nat.lt_of_lt_of_le some more
  have high := (lt_ceilMean_iff some').mp below
  have low : part + less ≤ ceilMean (part + less) few * few := (ceilMean_le_iff some).mp (Nat.le_refl _)
  have left : whole ≤ ceilMean whole many * many := (ceilMean_le_iff some').mp (Nat.le_refl _)
  rw [ceilMean_le_iff some]
  by_cases stays : ceilMean (part + less) few ≤ ceilMean whole many
  · exact Nat.le_trans (Nat.le_of_add_right_le low) (Nat.mul_le_mul_right few stays)
  · obtain ⟨fall, down⟩ := Nat.exists_eq_add_of_le (Nat.le_of_not_le stays)
    rw [down, Nat.add_mul] at low high
    -- each of the many items paid for the fall, so less than the whole loss is missing from the few
    have paid : fall * few ≤ fall * many := Nat.mul_le_mul_left fall more
    omega

theorem ceilMean_add_mul (some : 0 < few) (part fall : Nat) :
    ceilMean (part + fall * few) few = ceilMean part few + fall := by
  have apart : part + fall * few + few - 1 = part + few - 1 + fall * few := by omega
  rw [ceilMean, ceilMean, if_neg some.ne', if_neg some.ne', apart, Nat.add_mul_div_right _ _ some]

/-- A loss that goes into the few items evenly leaves their mean the smaller one. -/
theorem ceilMean_stays_below (some : 0 < few) (more : few ≤ many) (even : few ∣ less)
    (below : ceilMean (part + less) few < ceilMean (whole + less) many) :
    ceilMean part few < ceilMean whole many := by
  obtain ⟨fall, rfl⟩ := even
  have some' : 0 < many := Nat.lt_of_lt_of_le some more
  rw [Nat.mul_comm, ceilMean_add_mul some, lt_ceilMean_iff some', Nat.add_mul] at below
  rw [lt_ceilMean_iff some']
  have paid : fall * few ≤ fall * many := Nat.mul_le_mul_left fall more
  omega

end Means

namespace Samples

variable {s : Samples} {keys : List String} {key : String} {ms : Nat}

theorem length_positive_record (counted : 0 < s.amount key) (positive : 0 < ms) (keys : List String) :
    ((s.record key ms).positive keys).length = (s.positive keys).length := by
  rw [length_positive, length_positive, amount_record]
  refine List.countP_congr ?_
  intro other _
  rw [Function.update_apply]
  split
  next same => simp [same, counted, positive]
  next => rfl

theorem sum_positive_record (distinct : keys.Nodup) (member : key ∈ keys) (ms : Nat) :
    ((s.record key ms).positive keys).sum + s.amount key = (s.positive keys).sum + ms := by
  rw [sum_positive, sum_positive]
  exact sum_record distinct member ms

/-- A smaller sample takes the same amount out of the sum of its city and out of the sum of all. -/
theorem Built.means_of_faster (built : s.Built) (fits : s.whole ≤ Millis.last) (distinct : keys.Nodup)
    (member : key ∈ keys) {old new : Nat} (sampled : s.get? key = some old) (positive : 0 < new) (faster : new < old) :
    ∃ part whole,
      0 < part ∧ 0 < (s.positive keys).length ∧ (s.positive keys).length ≤ s.size ∧
      s.meanOf keys = ceilMean (part + (old - new)) (s.positive keys).length ∧
      (s.record key new).meanOf keys = ceilMean part (s.positive keys).length ∧
      s.average = ceilMean (whole + (old - new)) s.size ∧ (s.record key new).average = ceilMean whole s.size := by
  have amount := amount_of_get sampled
  have counted : 0 < s.amount key := by omega
  have count := length_positive_record counted positive keys
  have here := s.sum_positive_record distinct member new
  have everywhere := whole_record s key new
  have fewer := s.sum_positive_le distinct
  have small : new ≤ Millis.last := by
    have bound := built.amount_le key
    omega
  refine ⟨((s.record key new).positive keys).sum, (s.record key new).whole, ?_, ?_, s.length_positive_le distinct, ?_, ?_,
    ?_, ?_⟩
  · have kept := (s.record key new).amount_le_sum member
    rw [amount_record, Function.update_self] at kept
    omega
  · rw [length_positive]
    exact List.countP_pos_iff.mpr ⟨key, member, by simpa using counted⟩
  · rw [meanOf_of_fits (by omega)]
    congr 1
    omega
  · rw [meanOf_of_fits (by omega), count]
  · rw [built.average_of_fits fits]
    congr 1
    omega
  · rw [(built.record key small).average_of_fits (by omega), size_record sampled]

/-- The city was faster than all and is no slower than all now; it is faster still if the gain is even. -/
theorem Built.means_meet_at_worst (built : s.Built) (fits : s.whole ≤ Millis.last) (distinct : keys.Nodup)
    (member : key ∈ keys) {old new : Nat} (sampled : s.get? key = some old) (positive : 0 < new) (faster : new < old) :
    let next := s.record key new
    0 < next.meanOf keys ∧ next.meanOf keys ≤ s.meanOf keys ∧
    (s.meanOf keys < s.average → next.meanOf keys ≤ next.average) ∧
    ((s.positive keys).length ∣ old - new → s.meanOf keys < s.average → next.meanOf keys < next.average) := by
  obtain ⟨part, whole, some, few, more, before, after, beforeAll, afterAll⟩ :=
    built.means_of_faster fits distinct member sampled positive faster
  dsimp only
  rw [before, after, beforeAll, afterAll]
  refine ⟨?_, ceilMean_mono _ (Nat.le_add_right part _), ceilMean_meets few more, ceilMean_stays_below few more⟩
  rw [lt_ceilMean_iff few]
  omega

end Samples

namespace Rating

open Grade (step step_false)

variable {city : City} {samples : Samples} {key : String} {old new : Nat}

/-- A grade falls exactly if its latency steps become fewer and do not reach the top all the same. -/
theorem grade_lt_iff (r : Rating) (city : City) (origin : String) (before after : Samples) (cooldowns : Cooldowns)
    (now : Int) :
    r.grade city origin after cooldowns now < r.grade city origin before cooldowns now ↔
      active city cooldowns now ≠ 0 ∧
      r.latencySteps (after.meanOf city.keys) after.average <
        r.latencySteps (before.meanOf city.keys) before.average ∧
      (r.base city origin cooldowns now).level + r.latencySteps (after.meanOf city.keys) after.average <
        Grade.excellent.level := by
  have first := level_grade_of_base r city origin before cooldowns now
  have second := level_grade_of_base r city origin after cooldowns now
  have top : Grade.excellent.level = 3 := rfl
  show Grade.level _ < Grade.level _ ↔ _
  rw [first, second]
  split
  next none => simp [none]
  next some => omega

theorem base_lt_top_iff (r : Rating) (city : City) (origin : String) (cooldowns : Cooldowns) (now : Int) :
    (r.base city origin cooldowns now).level < Grade.excellent.level ↔ r.base city origin cooldowns now ≠ .excellent := by
  have top : ∀ g : Grade, g.level < Grade.excellent.level ↔ g ≠ .excellent := by
    intro g
    cases g <;> decide
  exact top _

/-- A faster answer, which leaves the city no slower than all or lets the two means meet, loses steps where they meet. -/
theorem latencySteps_lt_iff (r : Rating) {mean average mean' average' : Nat} (some : 0 < mean') (faster : mean' ≤ mean)
    (meets : mean < average → mean' ≤ average') :
    r.latencySteps mean' average' < r.latencySteps mean average ↔ mean < average ∧ mean' = average' := by
  unfold latencySteps step
  constructor
  · intro fewer
    by_contra kept
    split at fewer <;> split at fewer <;> split at fewer <;> split at fewer <;> omega
  · rintro ⟨below, rfl⟩
    rw [if_neg (by omega), if_neg (by omega), if_pos (by omega)]
    split <;> decide

/-- A faster answer lowers the grade exactly if the steps for latency become fewer and, with the base, stay below the top;
where all samples fit into 64 bits, exactly if it makes the two rounded means meet. -/
theorem grade_falls_iff_means_meet (r : Rating) (origin : String) (cooldowns : Cooldowns) (now : Int)
    (samples : Samples) (distinct : city.keys.Nodup) (member : key ∈ city.keys)
    (sampled : samples.get? key = some old) (positive : 0 < new) (faster : new < old) :
    let next := samples.record key new
    let mean := samples.meanOf city.keys
    let mean' := next.meanOf city.keys
    let start := r.base city origin cooldowns now
    let falls := (r.updated origin next cooldowns now city).grade < (r.updated origin samples cooldowns now city).grade
    (falls ↔ active city cooldowns now ≠ 0 ∧
      r.latencySteps mean' next.average < r.latencySteps mean samples.average ∧
      start.level + r.latencySteps mean' next.average < Grade.excellent.level) ∧
    (samples.Built → samples.whole ≤ Millis.last →
      (falls ↔ active city cooldowns now ≠ 0 ∧ start ≠ .excellent ∧ mean < samples.average ∧ mean' = next.average) ∧
      ((samples.positive city.keys).length ∣ old - new → ¬ falls)) := by
  intro next mean mean' start falls
  have exact : falls ↔ active city cooldowns now ≠ 0 ∧
      r.latencySteps mean' next.average < r.latencySteps mean samples.average ∧
      start.level + r.latencySteps mean' next.average < Grade.excellent.level :=
    grade_lt_iff r city origin samples next cooldowns now
  refine ⟨exact, ?_⟩
  intro built fits
  obtain ⟨some, lower, meets, stays⟩ := built.means_meet_at_worst fits distinct member sampled positive faster
  have fewer := r.latencySteps_lt_iff some lower meets
  have low : start.level < Grade.excellent.level ↔ start ≠ .excellent := base_lt_top_iff r city origin cooldowns now
  have sharp : falls ↔ active city cooldowns now ≠ 0 ∧ start ≠ .excellent ∧
      mean < samples.average ∧ mean' = next.average := by
    rw [exact, fewer]
    constructor
    · rintro ⟨on, below, room⟩
      have bonus := r.latencySteps_nonneg mean' next.average
      exact ⟨on, low.mp (by omega), below⟩
    · rintro ⟨on, room, below, meet⟩
      have none : r.latencySteps mean' next.average = 0 := by
        rw [latencySteps, step_false (by omega), step_false (by omega)]
        rfl
      rw [none, Int.add_zero]
      exact ⟨on, ⟨below, meet⟩, low.mpr room⟩
  refine ⟨sharp, ?_⟩
  intro even lost
  obtain ⟨_, _, below, meet⟩ := sharp.mp lost
  exact absurd meet (stays even below).ne

theorem brisk_stays :
    let samples := (Samples.empty.record "a" 20).record "x" 200
    let next := samples.record "a" 10
    samples.Built ∧ samples.whole ≤ Millis.last ∧ brisk.keys.Nodup ∧ samples.get? "a" = some 20 ∧
    ¬ ((⟨3, 30⟩ : Rating).updated "us" next .empty 0 brisk).grade <
      ((⟨3, 30⟩ : Rating).updated "us" samples .empty 0 brisk).grade := by
  intro samples next
  have built : samples.Built := .record "x" (by decide) (.record "a" (by decide) .empty)
  have fits : samples.whole ≤ Millis.last := by decide
  have distinct : brisk.keys.Nodup := by decide
  have member : "a" ∈ brisk.keys := by decide
  have sampled : samples.get? "a" = some 20 := by decide
  obtain ⟨_, fitting⟩ := grade_falls_iff_means_meet ⟨3, 30⟩ "us" .empty 0 samples distinct member sampled
    (show 0 < 10 by decide) (by decide)
  obtain ⟨_, even⟩ := fitting built fits
  exact ⟨built, fits, distinct, sampled, even (by decide)⟩

/-- Two relays, of which one becomes faster. -/
def twins : City := { brisk with relays := [⟨"a", .ofOctets 10 0 0 1⟩, ⟨"b", .ofOctets 10 0 0 2⟩] }

/-- With 2, 2 and 3 milliseconds the mean of the city is 2 and that of all is 3; with 1, 2 and 3 both are 2. -/
theorem twins_fall :
    twins.keys.Nodup ∧ "a" ∈ twins.keys ∧
    (((Samples.empty.record "a" 2).record "b" 2).record "x" 3).get? "a" = some 2 ∧ 0 < 1 ∧ 1 < 2 ∧
    ((⟨3, 30⟩ : Rating).updated "" (((Samples.empty.record "a" 2).record "b" 2).record "x" 3) .empty 0 twins).grade =
      .excellent ∧
    ((⟨3, 30⟩ : Rating).updated "" ((((Samples.empty.record "a" 2).record "b" 2).record "x" 3).record "a" 1) .empty 0
      twins).grade = .poor := by
  decide

/-- Where sums run over 64 bits, one step less may still reach the top. -/
example :
    let samples := ((Samples.empty.record "a" Millis.last).record "b" 10).record "x" 1000
    let next := samples.record "a" 99
    let rating : Rating := ⟨2, 30⟩
    rating.base twins "" .empty 0 = .good ∧
    rating.latencySteps (samples.meanOf twins.keys) samples.average = 2 ∧
    rating.latencySteps (next.meanOf twins.keys) next.average = 1 ∧
    (rating.updated "" samples .empty 0 twins).grade = .excellent ∧
    (rating.updated "" next .empty 0 twins).grade = .excellent := by
  decide

end Rating

end RelayQuality
