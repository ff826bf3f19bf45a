import RelayQuality.Proofs.Places
import RelayQuality.Proofs.Totals
import RelayQuality.Rating

/-!
# Grades by counting steps

The level of a city is zero without an active relay. With one it is one, and one more for each step that is earned, up
to three, so that a chain of promotions is a sum (`Rating.level_base`, `Rating.level_grade`).
-/

namespace RelayQuality

namespace Grade

def step (earned : Prop) [Decidable earned] : Int := if earned then 1 else 0

theorem step_nonneg (earned : Prop) [Decidable earned] : 0 ≤ step earned := by
  unfold step
  split <;> decide

theorem step_false {earned : Prop} [Decidable earned] (not : ¬ earned) : step earned = 0 := if_neg not

theorem step_congr {a b : Prop} [Decidable a] [Decidable b] (same : a ↔ b) : step a = step b := by
  simp only [step, same]

theorem level_promoteIf {g : Grade} (known : 0 ≤ g.level) (condition : Bool) :
    (g.promoteIf condition).level = min 3 (g.level + step (condition = true)) := by
  cases condition <;> cases g <;> first | rfl | exact absurd known (by decide)

/-- Stopping at the top twice is stopping there once. -/
theorem level_promoteIf_twice {g : Grade} (known : 0 ≤ g.level) (first second : Bool) :
    ((g.promoteIf first).promoteIf second).level =
      min 3 (g.level + step (first = true) + step (second = true)) := by
  have once := level_promoteIf known first
  have earned := step_nonneg (first = true)
  have more := step_nonneg (second = true)
  rw [level_promoteIf (by omega), once]
  omega

theorem ne_noData {g : Grade} (known : 0 ≤ g.level) : g ≠ .noData := by
  rintro rfl
  exact absurd known (by decide)

end Grade

namespace Rating

open Grade (step step_nonneg step_false step_congr level_promoteIf level_promoteIf_twice)

variable {city : City} {origin : String} {samples : Samples} {cooldowns : Cooldowns} {now : Int}

/-- How many relays of a city are not suppressed. -/
def active (city : City) (cooldowns : Cooldowns) (now : Int) : Nat :=
  city.keys.countP fun key => cooldowns.isSuppressed key now = false

theorem length_activeKeys (city : City) (cooldowns : Cooldowns) (now : Int) :
    (activeKeys city.keys cooldowns now).length = active city cooldowns now := by
  simp [activeKeys, active, List.countP_eq_length_filter]

theorem isLocal_iff : isLocal city origin = true ↔ origin ≠ "" ∧ sameIgnoringCase origin city.country = true := by
  simp [isLocal]

/-! ### Redundancy and locality -/

theorem base_of_none (r : Rating) (origin : String) (none : active city cooldowns now = 0) :
    r.base city origin cooldowns now = .unavailable := by
  rw [base, length_activeKeys, if_pos none]

theorem base_of_some (r : Rating) (origin : String) (some : active city cooldowns now ≠ 0) :
    (r.base city origin cooldowns now).level =
      min 3 (1 + step (r.threshold ≤ active city cooldowns now) +
        step (origin ≠ "" ∧ sameIgnoringCase origin city.country = true)) := by
  rw [base, length_activeKeys, if_neg some, level_promoteIf_twice (by decide), step_congr decide_eq_true_iff,
    step_congr isLocal_iff]
  rfl

theorem level_base (r : Rating) (city : City) (origin : String) (cooldowns : Cooldowns) (now : Int) :
    (r.base city origin cooldowns now).level =
      if active city cooldowns now = 0 then 0
      else min 3 (1 + step (r.threshold ≤ active city cooldowns now) +
        step (origin ≠ "" ∧ sameIgnoringCase origin city.country = true)) := by
  split
  next none =>
    rw [base_of_none r origin none]
    rfl
  next some => exact base_of_some r origin some

theorem base_le_unavailable (r : Rating) (city : City) (origin : String) (cooldowns : Cooldowns) (now : Int) :
    r.base city origin cooldowns now ≤ .unavailable ↔ active city cooldowns now = 0 := by
  have level := level_base r city origin cooldowns now
  have redundant := step_nonneg (r.threshold ≤ active city cooldowns now)
  have home := step_nonneg (origin ≠ "" ∧ sameIgnoringCase origin city.country = true)
  show (r.base city origin cooldowns now).level ≤ 0 ↔ _
  split at level <;> omega

theorem zero_le_base (r : Rating) (city : City) (origin : String) (cooldowns : Cooldowns) (now : Int) :
    0 ≤ (r.base city origin cooldowns now).level := by
  have level := level_base r city origin cooldowns now
  have redundant := step_nonneg (r.threshold ≤ active city cooldowns now)
  have home := step_nonneg (origin ≠ "" ∧ sameIgnoringCase origin city.country = true)
  split at level <;> omega

/-! ### Latency -/

/-- The steps that a mean round trip earns beside the mean of all. -/
def latencySteps (r : Rating) (mean average : Nat) : Int :=
  step (0 < mean ∧ mean < average) + step (0 < mean ∧ mean < average ∧ mean < r.excellent)

theorem latencySteps_nonneg (r : Rating) (mean average : Nat) : 0 ≤ r.latencySteps mean average :=
  Int.add_nonneg (step_nonneg _) (step_nonneg _)

/-- Latency adds its steps to the base, but nothing where no relay is active. -/
theorem level_grade_of_base (r : Rating) (city : City) (origin : String) (samples : Samples) (cooldowns : Cooldowns)
    (now : Int) :
    (r.grade city origin samples cooldowns now).level =
      if active city cooldowns now = 0 then 0
      else min 3 ((r.base city origin cooldowns now).level +
        r.latencySteps (samples.meanOf city.keys) samples.average) := by
  have known := zero_le_base r city origin cooldowns now
  have unavailable := base_le_unavailable r city origin cooldowns now
  unfold grade
  dsimp only
  split
  next plain =>
    rcases plain with off | unmeasured
    · rw [if_pos (unavailable.mp off), base_of_none r origin (unavailable.mp off)]
      rfl
    · -- without a mean neither step is earned
      have bonus : r.latencySteps (samples.meanOf city.keys) samples.average = 0 := by
        rw [latencySteps, step_false (by omega), step_false (by omega)]
        rfl
      rw [bonus]
      have level := level_base r city origin cooldowns now
      split at level <;> omega
  next rated =>
    obtain ⟨on, measured⟩ := not_or.mp rated
    have some : active city cooldowns now ≠ 0 := fun none => on (unavailable.mpr none)
    have faster : step (decide (samples.meanOf city.keys < samples.average) = true) =
        step (0 < samples.meanOf city.keys ∧ samples.meanOf city.keys < samples.average) := by
      refine step_congr ?_
      rw [decide_eq_true_iff]
      omega
    have excels : step ((decide (samples.meanOf city.keys < samples.average) &&
          decide (samples.meanOf city.keys < r.excellent)) = true) =
        step (0 < samples.meanOf city.keys ∧ samples.meanOf city.keys < samples.average ∧
          samples.meanOf city.keys < r.excellent) := by
      refine step_congr ?_
      rw [Bool.and_eq_true, decide_eq_true_iff, decide_eq_true_iff]
      omega
    rw [if_neg some, level_promoteIf_twice known, faster, excels, latencySteps, Int.add_assoc]

theorem level_grade (r : Rating) (city : City) (origin : String) (samples : Samples) (cooldowns : Cooldowns)
    (now : Int) :
    (r.grade city origin samples cooldowns now).level =
      if active city cooldowns now = 0 then 0
      else min 3 (1 + step (r.threshold ≤ active city cooldowns now) +
        step (origin ≠ "" ∧ sameIgnoringCase origin city.country = true) +
        r.latencySteps (samples.meanOf city.keys) samples.average) := by
  rw [level_grade_of_base, level_base]
  have bonus := r.latencySteps_nonneg (samples.meanOf city.keys) samples.average
  split <;> omega

theorem grade_ne_noData (r : Rating) (city : City) (origin : String) (samples : Samples) (cooldowns : Cooldowns)
    (now : Int) : r.grade city origin samples cooldowns now ≠ .noData := by
  have level := level_grade_of_base r city origin samples cooldowns now
  have known := zero_le_base r city origin cooldowns now
  have bonus := r.latencySteps_nonneg (samples.meanOf city.keys) samples.average
  refine Grade.ne_noData ?_
  split at level <;> omega

/-! ### Pairs of hops -/

theorem multiHop_of_found {r : Rating} {catalog : Catalog} {exit entry : String × String} {exitCity entryCity : City}
    (leaves : catalog.cityNamed? exit.1 exit.2 = some exitCity)
    (enters : catalog.cityNamed? entry.1 entry.2 = some entryCity) :
    r.multiHop catalog exit entry cooldowns now =
      if active exitCity cooldowns now = 0 then .unavailable
      else (r.base exitCity entry.1 cooldowns now).promoteIf (Globe.near exitCity.place entryCity.place) := by
  have unavailable := base_le_unavailable r exitCity entry.1 cooldowns now
  simp only [multiHop, leaves, enters, unavailable]
  split
  next none => exact base_of_none r entry.1 none
  next => rfl

theorem multiHop_eq_noData (r : Rating) (catalog : Catalog) (exit entry : String × String) (cooldowns : Cooldowns)
    (now : Int) :
    r.multiHop catalog exit entry cooldowns now = .noData ↔
      catalog.cityNamed? exit.1 exit.2 = none ∨ catalog.cityNamed? entry.1 entry.2 = none := by
  cases leaves : catalog.cityNamed? exit.1 exit.2 with
  | none => simp [multiHop, leaves]
  | some exitCity =>
    cases enters : catalog.cityNamed? entry.1 entry.2 with
    | none => simp [multiHop, leaves, enters]
    | some entryCity =>
      have known := zero_le_base r exitCity entry.1 cooldowns now
      have raised := level_promoteIf known (Globe.near exitCity.place entryCity.place)
      have near := step_nonneg (Globe.near exitCity.place entryCity.place = true)
      rw [multiHop_of_found leaves enters]
      split
      · simp
      · simpa using Grade.ne_noData (by omega)

theorem level_multiHop (r : Rating) {catalog : Catalog} {exit entry : String × String} {exitCity entryCity : City}
    (cooldowns : Cooldowns) (now : Int)
    (leaves : catalog.cityNamed? exit.1 exit.2 = some exitCity)
    (enters : catalog.cityNamed? entry.1 entry.2 = some entryCity) :
    (r.multiHop catalog exit entry cooldowns now).level =
      if active exitCity cooldowns now = 0 then 0
      else min 3 (1 + step (r.threshold ≤ active exitCity cooldowns now) +
        step (entry.1 ≠ "" ∧ sameIgnoringCase entry.1 exitCity.country = true) +
        step (Globe.near exitCity.place entryCity.place = true)) := by
  rw [multiHop_of_found leaves enters]
  split
  · rfl
  next some =>
    have known := zero_le_base r exitCity entry.1 cooldowns now
    have near := step_nonneg (Globe.near exitCity.place entryCity.place = true)
    rw [level_promoteIf known, base_of_some r entry.1 some]
    omega

/-- A pair is rated by names, places and relays of its cities. -/
theorem multiHop_mapCities (r : Rating) (catalog : Catalog) (exit entry : String × String) (cooldowns : Cooldowns)
    (now : Int) (latency : City → Nat) (grade : City → Grade) :
    r.multiHop (catalog.mapCities fun city => { city with latency := latency city, grade := grade city }) exit entry
      cooldowns now = r.multiHop catalog exit entry cooldowns now := by
  let change (city : City) : City := { city with latency := latency city, grade := grade city }
  have found := catalog.cityNamed?_mapCities change fun _ => rfl
  rw [multiHop, multiHop, found, found]
  cases catalog.cityNamed? exit.1 exit.2 with
  | none => rfl
  | some exitCity =>
    cases catalog.cityNamed? entry.1 entry.2 with
    | none => rfl
    | some entryCity => rfl

theorem active_congr {others : Cooldowns}
    (same : ∀ key ∈ city.keys, others.isSuppressed key now = cooldowns.isSuppressed key now) :
    active city others now = active city cooldowns now := by
  refine List.countP_congr ?_
  intro key member
  rw [same key member]

/-- Of all cooldowns a pair regards those of the relays through which it leaves. -/
theorem multiHop_congr {r : Rating} {catalog : Catalog} {exit entry : String × String} {exitCity entryCity : City}
    (leaves : catalog.cityNamed? exit.1 exit.2 = some exitCity)
    (enters : catalog.cityNamed? entry.1 entry.2 = some entryCity) {others : Cooldowns}
    (same : ∀ key ∈ exitCity.keys, others.isSuppressed key now = cooldowns.isSuppressed key now) :
    r.multiHop catalog exit entry others now = r.multiHop catalog exit entry cooldowns now := by
  refine Grade.level_injective ?_
  rw [level_multiHop r others now leaves enters, level_multiHop r cooldowns now leaves enters, active_congr same]

/-! ### All together -/

/-- The level of a grade is zero without an active relay, else one and a step for each thing that was earned, at most
three; for a pair of hops nearness takes the place of latency. -/
theorem grades_count_steps (r : Rating) (catalog : Catalog) (city : City) (origin : String) {samples : Samples}
    (cooldowns : Cooldowns) (now : Int) (built : samples.Built) (fits : samples.whole ≤ Millis.last)
    (fitsHere : (samples.positive city.keys).sum ≤ Millis.last) :
    let mean := meanUp (samples.positive city.keys)
    let average := meanUp samples.values.values
    let rated := r.updated origin samples cooldowns now city
    rated = { city with latency := mean, grade := r.grade city origin samples cooldowns now } ∧
    rated.grade ≠ .noData ∧
    rated.grade.level =
      (if active city cooldowns now = 0 then 0
      else min 3 (1 + step (r.threshold ≤ active city cooldowns now) +
        step (origin ≠ "" ∧ sameIgnoringCase origin city.country = true) +
        step (0 < mean ∧ mean < average) + step (0 < mean ∧ mean < average ∧ mean < r.excellent))) ∧
    ∀ exit entry : String × String,
      (r.multiHop catalog exit entry cooldowns now = .noData ↔
        catalog.cityNamed? exit.1 exit.2 = none ∨ catalog.cityNamed? entry.1 entry.2 = none) ∧
      (∀ (latency : City → Nat) (grade : City → Grade),
        r.multiHop (catalog.mapCities fun city => { city with latency := latency city, grade := grade city }) exit entry
          cooldowns now = r.multiHop catalog exit entry cooldowns now) ∧
      ∀ exitCity entryCity, catalog.cityNamed? exit.1 exit.2 = some exitCity →
        catalog.cityNamed? entry.1 entry.2 = some entryCity →
        (r.multiHop catalog exit entry cooldowns now = .unavailable ↔ active exitCity cooldowns now = 0) ∧
        (active exitCity cooldowns now ≠ 0 → (r.multiHop catalog exit entry cooldowns now).level =
          min 3 (1 + step (r.threshold ≤ active exitCity cooldowns now) +
            step (entry.1 ≠ "" ∧ sameIgnoringCase entry.1 exitCity.country = true) +
            step (Globe.near exitCity.place entryCity.place = true))) ∧
        ∀ others : Cooldowns,
          (∀ key ∈ exitCity.keys, others.isSuppressed key now = cooldowns.isSuppressed key now) →
          r.multiHop catalog exit entry others now = r.multiHop catalog exit entry cooldowns now := by
  intro mean average rated
  have here : samples.meanOf city.keys = mean := Samples.meanOf_eq fitsHere
  have everywhere : samples.average = average := built.average_eq fits
  have level := level_grade r city origin samples cooldowns now
  rw [latencySteps, here, everywhere, ← Int.add_assoc] at level
  refine ⟨by rw [← here]; rfl, grade_ne_noData r city origin samples cooldowns now, level, ?_⟩
  intro exit entry
  refine ⟨multiHop_eq_noData r catalog exit entry cooldowns now,
    multiHop_mapCities r catalog exit entry cooldowns now, ?_⟩
  intro exitCity entryCity leaves enters
  have hops := level_multiHop r cooldowns now leaves enters
  refine ⟨?_, ?_, fun others same => multiHop_congr leaves enters same⟩
  · have redundant := step_nonneg (r.threshold ≤ active exitCity cooldowns now)
    have home := step_nonneg (entry.1 ≠ "" ∧ sameIgnoringCase entry.1 exitCity.country = true)
    have near := step_nonneg (Globe.near exitCity.place entryCity.place = true)
    constructor
    · intro off
      have zero : (r.multiHop catalog exit entry cooldowns now).level = 0 := by rw [off]; rfl
      by_contra some
      rw [if_neg some] at hops
      omega
    · intro none
      rw [if_pos none] at hops
      exact Grade.level_injective hops
  · intro some
    rw [hops, if_neg some]

/-- A city with one relay, which answers in 20 milliseconds where another one needs 200. -/
def brisk : City :=
  { code := "got", name := "Gothenburg", country := "se", place := default, relays := [⟨"a", .ofOctets 10 0 0 1⟩] }

theorem brisk_excels :
    let samples := (Samples.empty.record "a" 20).record "x" 200
    samples.Built ∧ samples.whole ≤ Millis.last ∧ (samples.positive brisk.keys).sum ≤ Millis.last ∧
    (⟨3, 30⟩ : Rating).updated "us" samples .empty 0 brisk = { brisk with latency := 20, grade := .excellent } := by
  intro samples
  have built : samples.Built := .record "x" (by decide) (.record "a" (by decide) .empty)
  have fits : samples.whole ≤ Millis.last := by decide
  have fitsHere : (samples.positive brisk.keys).sum ≤ Millis.last := by decide
  have mean : meanUp (samples.positive brisk.keys) = 20 := by
    rw [← ceilMean_eq_meanUp]
    decide
  have average : meanUp samples.values.values = 110 := by
    rw [← ceilMean_eq_meanUp]
    decide
  obtain ⟨updated, _, level, _⟩ := grades_count_steps ⟨3, 30⟩ {} brisk "us" .empty 0 built fits fitsHere
  rw [mean, average] at level
  rw [mean] at updated
  have grade : ((⟨3, 30⟩ : Rating).updated "us" samples .empty 0 brisk).grade = .excellent :=
    Grade.level_injective level
  refine ⟨built, fits, fitsHere, ?_⟩
  rw [updated] at grade ⊢
  exact congrArg (fun grade => { brisk with latency := 20, grade }) grade

end Rating

end RelayQuality
