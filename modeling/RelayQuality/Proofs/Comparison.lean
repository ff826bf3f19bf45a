import RelayQuality.Proofs.Levels

/-!
# Grades under more cooldowns and slower rivals

Each step that a grade counts is monotone (`Grade.step_mono`): in the number of active relays, which more cooldowns can only
lower, and in the mean of all samples, which a slower server elsewhere can only raise.
-/

namespace RelayQuality

namespace Grade

theorem step_mono {a b : Prop} [Decidable a] [Decidable b] (implies : a → b) : step a ≤ step b := by
  unfold step
  split
  next earned => rw [if_pos (implies earned)]
  next => split <;> decide

end Grade

theorem Samples.Built.average_le_record {s : Samples} {key : String} {old new : Nat} (built : s.Built)
    (sampled : s.get? key = some old) (slower : old < new) (fits : (s.record key new).whole ≤ Millis.last) :
    s.average ≤ (s.record key new).average := by
  have whole := whole_record s key new
  rw [amount_of_get sampled] at whole
  have small := (s.record key new).amount_le_whole key
  rw [amount_record, Function.update_self] at small
  rw [built.average_of_fits (by omega), (built.record key (by omega)).average_of_fits fits, size_record sampled]
  exact ceilMean_mono _ (by omega)

namespace Rating

open Grade (step step_mono step_nonneg)

variable {city : City} {samples : Samples} {few more : Cooldowns} {now : Int}

theorem active_mono (wider : ∀ key ∈ city.keys, few.isSuppressed key now = true → more.isSuppressed key now = true) :
    active city more now ≤ active city few now := by
  refine List.countP_mono_left ?_
  intro key listed free
  simp only [decide_eq_true_eq] at free ⊢
  by_contra taken
  rw [wider key listed (Bool.eq_true_of_not_eq_false taken)] at free
  cases free

theorem latencySteps_mono (r : Rating) (mean : Nat) {low high : Nat} (slower : low ≤ high) :
    r.latencySteps mean low ≤ r.latencySteps mean high := by
  unfold latencySteps
  refine Int.add_le_add (step_mono ?_) (step_mono ?_)
  · rintro ⟨some, below⟩
    exact ⟨some, by omega⟩
  · rintro ⟨some, below, excels⟩
    exact ⟨some, by omega, excels⟩

/-- Fewer active relays do not lift a sum of steps, whatever the other steps are. -/
theorem steps_mono {threshold low high : Nat} {home bonus : Int} (fewer : low ≤ high) (known : 0 ≤ home)
    (earned : 0 ≤ bonus) :
    (if low = 0 then 0 else min 3 (1 + step (threshold ≤ low) + home + bonus)) ≤
      if high = 0 then 0 else min 3 (1 + step (threshold ≤ high) + home + bonus) := by
  have redundant : step (threshold ≤ low) ≤ step (threshold ≤ high) :=
    step_mono fun reached => Nat.le_trans reached fewer
  have some := step_nonneg (threshold ≤ high)
  split <;> split <;> omega

theorem grade_le_of_suppressed (r : Rating) (origin : String) (samples : Samples)
    (wider : ∀ key ∈ city.keys, few.isSuppressed key now = true → more.isSuppressed key now = true) :
    r.grade city origin samples more now ≤ r.grade city origin samples few now := by
  show Grade.level _ ≤ Grade.level _
  rw [level_grade, level_grade]
  exact steps_mono (active_mono wider) (step_nonneg _) (r.latencySteps_nonneg _ _)

theorem multiHop_le_of_suppressed (r : Rating) (catalog : Catalog) (exit entry : String × String)
    (wider : ∀ exitCity, catalog.cityNamed? exit.1 exit.2 = some exitCity → ∀ key ∈ exitCity.keys,
      few.isSuppressed key now = true → more.isSuppressed key now = true) :
    r.multiHop catalog exit entry more now ≤ r.multiHop catalog exit entry few now := by
  show Grade.level _ ≤ Grade.level _
  by_cases missing : catalog.cityNamed? exit.1 exit.2 = none ∨ catalog.cityNamed? entry.1 entry.2 = none
  · rw [(multiHop_eq_noData r catalog exit entry more now).mpr missing,
      (multiHop_eq_noData r catalog exit entry few now).mpr missing]
  · obtain ⟨leaves, enters⟩ := not_or.mp missing
    obtain ⟨exitCity, leaves⟩ := Option.ne_none_iff_exists'.mp leaves
    obtain ⟨entryCity, enters⟩ := Option.ne_none_iff_exists'.mp enters
    rw [level_multiHop r more now leaves enters, level_multiHop r few now leaves enters]
    exact steps_mono (active_mono (wider exitCity leaves)) (step_nonneg _) (step_nonneg _)

theorem grade_le_of_slower (r : Rating) (city : City) (origin : String) (cooldowns : Cooldowns) (now : Int) {key : String}
    {old new : Nat} (built : samples.Built) (outside : key ∉ city.keys) (sampled : samples.get? key = some old)
    (slower : old < new) (fits : (samples.record key new).whole ≤ Millis.last) :
    r.grade city origin samples cooldowns now ≤ r.grade city origin (samples.record key new) cooldowns now := by
  have mean : (samples.record key new).meanOf city.keys = samples.meanOf city.keys := by
    refine Samples.meanOf_congr ?_
    intro other listed
    rw [Samples.get?_record, if_neg fun same : other = key => outside (same ▸ listed)]
  have bonus := r.latencySteps_mono (samples.meanOf city.keys) (built.average_le_record sampled slower fits)
  show Grade.level _ ≤ Grade.level _
  rw [level_grade_of_base, level_grade_of_base, mean]
  split <;> omega

/-- More cooldowns of its relays never give a city, or a pair of hops that leaves through it, a better grade, and a
slower server elsewhere never a worse one. -/
theorem grades_are_monotone (r : Rating) (origin : String) (now : Int) :
    (∀ (city : City) (samples : Samples) (few more : Cooldowns),
      (∀ key ∈ city.keys, few.isSuppressed key now = true → more.isSuppressed key now = true) →
      (r.updated origin samples more now city).grade ≤ (r.updated origin samples few now city).grade) ∧
    (∀ (catalog : Catalog) (exit entry : String × String) (few more : Cooldowns),
      (∀ exitCity, catalog.cityNamed? exit.1 exit.2 = some exitCity →
        ∀ key ∈ exitCity.keys, few.isSuppressed key now = true → more.isSuppressed key now = true) →
      r.multiHop catalog exit entry more now ≤ r.multiHop catalog exit entry few now) ∧
    ∀ (city : City) (samples : Samples) (cooldowns : Cooldowns) (key : String) (old new : Nat),
      samples.Built → key ∉ city.keys → samples.get? key = some old → old < new →
      (samples.record key new).whole ≤ Millis.last →
      (r.updated origin samples cooldowns now city).grade ≤
        (r.updated origin (samples.record key new) cooldowns now city).grade := by
  refine ⟨?_, ?_, ?_⟩
  · intro city samples few more wider
    exact grade_le_of_suppressed r origin samples wider
  · intro catalog exit entry few more wider
    exact multiHop_le_of_suppressed r catalog exit entry wider
  · intro city samples cooldowns key old new built outside sampled slower fits
    exact grade_le_of_slower r city origin cooldowns now built outside sampled slower fits

def trio : City :=
  { brisk with relays := [⟨"a", .ofOctets 10 0 0 1⟩, ⟨"b", .ofOctets 10 0 0 2⟩, ⟨"c", .ofOctets 10 0 0 3⟩] }

/-- One relay is suppressed in both cases, another one in the second only, and a rival of the city in the first only. Then
the rival falls behind. -/
theorem trio_compared :
    let samples := (((Samples.empty.record "a" 20).record "b" 20).record "c" 20).record "x" 20
    let few := (Cooldowns.empty.set "a" 60 0).set "x" 60 0
    let more := (Cooldowns.empty.set "a" 90 0).set "b" 60 0
    let rating : Rating := ⟨2, 30⟩
    let catalog : Catalog := ⟨[⟨"se", "Sweden", [trio]⟩]⟩
    let grade (samples : Samples) (cooldowns : Cooldowns) := (rating.updated "us" samples cooldowns 0 trio).grade
    (∀ key ∈ trio.keys, few.isSuppressed key 0 = true → more.isSuppressed key 0 = true) ∧
    few.isSuppressed "x" 0 = true ∧ more.isSuppressed "x" 0 = false ∧
    grade samples more ≤ grade samples few ∧ grade samples more = .poor ∧ grade samples few = .good ∧
    rating.multiHop catalog ("se", "Gothenburg") ("se", "Gothenburg") more 0 ≤
      rating.multiHop catalog ("se", "Gothenburg") ("se", "Gothenburg") few 0 ∧
    samples.Built ∧ (samples.record "x" 200).whole ≤ Millis.last ∧
    grade samples few ≤ grade (samples.record "x" 200) few ∧ grade (samples.record "x" 200) few = .excellent := by
  intro samples few more rating catalog grade
  have wider : ∀ key ∈ trio.keys, few.isSuppressed key 0 = true → more.isSuppressed key 0 = true := by decide
  have built : samples.Built :=
    .record "x" (by decide) (.record "c" (by decide) (.record "b" (by decide) (.record "a" (by decide) .empty)))
  have fits : (samples.record "x" 200).whole ≤ Millis.last := by decide
  obtain ⟨city, pair, rival⟩ := grades_are_monotone rating "us" 0
  refine ⟨wider, by decide, by decide, city trio samples few more wider, by decide, by decide, ?_, built, fits, ?_,
    by decide⟩
  · refine pair catalog _ _ few more fun exitCity found => ?_
    obtain rfl : trio = exitCity := Option.some.inj found
    exact wider
  · exact rival trio samples few "x" 20 200 built (by decide) (by decide) (by decide) fits

end Rating

end RelayQuality
