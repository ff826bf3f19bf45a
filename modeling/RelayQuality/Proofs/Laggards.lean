import Mathlib.Algebra.BigOperators.Ring.List
import RelayQuality.Proofs.Erasure
import RelayQuality.Proofs.KeptMeans
import RelayQuality.Proofs.Levels

/-!
# Cities that lag behind

Being faster than the mean of all is relative. Where the relays of a catalog are the only ones with samples, the mean of
all is not above the means of all cities, also after each mean was rounded up (`Samples.Built.some_group_lags`). A city
that is not below it earns no step for latency.
-/

namespace RelayQuality

namespace Samples

variable {s : Samples} {keys : List String} {groups : List (List String)}

theorem positive_flatten (s : Samples) (groups : List (List String)) :
    s.positive groups.flatten = (groups.map s.positive).flatten := by
  unfold positive
  rw [List.filterMap_flatten, List.filter_flatten, List.map_map]
  rfl

/-- Servers without a sample add nothing to a list that names all others. -/
theorem whole_le_sum_positive (known : ∀ key ∈ s.values.keys, key ∈ keys) : s.whole ≤ (s.positive keys).sum := by
  have named : s.values.keys.Subperm keys := List.subperm_of_subset s.values.nodup known
  obtain ⟨part, same, fewer⟩ := named
  rw [whole_eq, sum_positive, ← (same.map s.amount).sum_eq]
  exact (fewer.map s.amount).sum_le_sum fun _ _ => Nat.zero_le _

theorem Built.average_pos (built : s.Built) (fits : s.whole ≤ Millis.last) {key : String} {ms : Nat}
    (sampled : s.get? key = some ms) (counts : 0 < ms) : 0 < s.average := by
  have whole := s.amount_le_whole key
  rw [amount_of_get sampled] at whole
  have listed : key ∈ s.values.keys := KeyMap.isSome_get?.mp (Option.isSome_of_mem sampled)
  have some : 0 < s.size := by
    have some := List.length_pos_of_mem listed
    rwa [KeyMap.keys, List.length_map] at some
  rw [built.average_of_fits fits, lt_ceilMean_iff some]
  omega

/-- Where each server with a sample is in one group, the mean of all is not above the means of all groups. -/
theorem Built.some_group_lags (built : s.Built) (fits : s.whole ≤ Millis.last) (distinct : groups.flatten.Nodup)
    (known : ∀ key ∈ s.values.keys, key ∈ groups.flatten) (measured : 0 < s.average) :
    ∃ keys ∈ groups, s.average ≤ s.meanOf keys := by
  have some : 0 < s.size := by
    by_contra none
    rw [average, Nat.eq_zero_of_not_pos none] at measured
    exact absurd measured (Nat.lt_irrefl 0)
  -- one less than the mean, taken once for each sample of a group, falls short of the sum of all groups
  have short : (groups.map fun keys => (s.average - 1) * (s.positive keys).length).sum <
      (groups.map fun keys => (s.positive keys).sum).sum := by
    calc (groups.map fun keys => (s.average - 1) * (s.positive keys).length).sum
        = (s.average - 1) * (s.positive groups.flatten).length := by
          rw [positive_flatten, List.length_flatten, List.map_map, ← List.sum_map_mul_left]
          rfl
      _ ≤ (s.average - 1) * s.size := Nat.mul_le_mul_left _ (s.length_positive_le distinct)
      _ < s.whole := by
          rw [← lt_ceilMean_iff some, ← built.average_of_fits fits]
          omega
      _ ≤ (s.positive groups.flatten).sum := whole_le_sum_positive known
      _ = (groups.map fun keys => (s.positive keys).sum).sum := by
          rw [positive_flatten, List.sum_flatten, List.map_map]
          rfl
  obtain ⟨keys, member, above⟩ := List.exists_lt_of_sum_lt _ _ short
  have once : keys.Nodup := (List.nodup_flatten.mp distinct).1 keys member
  have few : 0 < (s.positive keys).length := by
    by_contra none
    rw [List.length_eq_zero_iff.mp (Nat.eq_zero_of_not_pos none)] at above
    exact absurd above (by simp)
  rw [← lt_ceilMean_iff few, ← meanOf_of_fits (Nat.le_trans (s.sum_positive_le once) fits)] at above
  exact ⟨keys, member, by omega⟩

end Samples

theorem Rating.grade_of_lagging (r : Rating) {city : City} (origin : String) {samples : Samples} (cooldowns : Cooldowns)
    (now : Int) (lags : samples.average ≤ samples.meanOf city.keys) :
    r.grade city origin samples cooldowns now = r.base city origin cooldowns now := by
  have slow : decide (samples.meanOf city.keys < samples.average) = false := decide_eq_false (by omega)
  unfold grade
  dsimp only
  split
  · rfl
  · rw [slow]
    rfl

namespace Monitor

/-- Moving the observer rates every city and leaves alone what the ratings look at. -/
theorem setObserver_rates (m : Monitor) (now : Reading) (o : Observer) :
    let n := m.setObserver now o
    n.samples = m.samples ∧ n.cooldowns = m.cooldowns ∧ n.rating = m.rating ∧ n.origin = o.country ∧
      n.catalog.cities = m.catalog.cities.map (m.rating.updated o.country m.samples m.cooldowns now.epoch) := by
  unfold setObserver rerateAll
  rw [markChanged_eq]
  exact ⟨rfl, rfl, rfl, rfl, Catalog.cities_mapCities _ _⟩

/-- After the observer moved, some measured city is no faster than the mean of all and has the grade that it would have
without its latency. -/
theorem some_city_earns_no_bonus {m : Monitor} (now : Reading) (o : Observer) (distinct : m.catalog.KeysDistinct)
    (built : m.samples.Built) (fits : m.samples.whole ≤ Millis.last)
    (known : ∀ key ms, m.samples.get? key = some ms → key ∈ m.catalog.keys)
    (measured : ∃ key ms, m.samples.get? key = some ms ∧ 0 < ms) :
    let n := m.setObserver now o
    ∃ city ∈ n.catalog.cities, 0 < city.latency ∧ n.samples.average ≤ city.latency ∧
      city.grade = n.rating.base city n.origin n.cooldowns now.epoch := by
  intro n
  obtain ⟨key, ms, sampled, counts⟩ := measured
  have positive : 0 < m.samples.average := built.average_pos fits sampled counts
  have groups : m.catalog.keys = (m.catalog.cities.map City.keys).flatten := List.flatMap_def
  have once : (m.catalog.cities.map City.keys).flatten.Nodup := groups ▸ distinct
  have listed : ∀ key ∈ m.samples.values.keys, key ∈ (m.catalog.cities.map City.keys).flatten := by
    intro key member
    obtain ⟨ms, found⟩ := Option.isSome_iff_exists.mp (KeyMap.isSome_get?.mpr member)
    exact groups ▸ known key ms found
  obtain ⟨_, member, lags⟩ := built.some_group_lags fits once listed positive
  obtain ⟨city, here, rfl⟩ := List.mem_map.mp member
  obtain ⟨samples, cooldowns, rating, origin, cities⟩ := m.setObserver_rates now o
  refine ⟨m.rating.updated o.country m.samples m.cooldowns now.epoch city, ?_, Nat.lt_of_lt_of_le positive lags, ?_, ?_⟩
  · rw [cities]
    exact List.mem_map_of_mem here
  · rw [samples]
    exact lags
  · rw [rating, origin, cooldowns]
    exact m.rating.grade_of_lagging o.country m.cooldowns now.epoch lags

/-- Two cities answer after 2 and 3 milliseconds, so that the rounded mean of all is 3. -/
theorem closeAnswers_no_bonus :
    let m := (ofConfig {} neighbours).run
      [(⟨⟨0, 100⟩, true⟩, .recordLatency "a" 2), (⟨⟨0, 100⟩, true⟩, .recordLatency "b" 3)]
    let n := m.setObserver ⟨5, 100⟩ ⟨default, "se"⟩
    m.catalog.KeysDistinct ∧ m.samples.Built ∧ m.samples.whole ≤ Millis.last ∧
    (∀ key ms, m.samples.get? key = some ms → key ∈ m.catalog.keys) ∧
    (∃ key ms, m.samples.get? key = some ms ∧ 0 < ms) ∧ n.samples.average = 3 ∧
    ∃ city ∈ n.catalog.cities, 0 < city.latency ∧ 3 ≤ city.latency ∧
      city.grade = n.rating.base city n.origin n.cooldowns 100 := by
  intro m n
  have distinct : m.catalog.KeysDistinct := by
    unfold Catalog.KeysDistinct
    decide
  have samples : m.samples = (Samples.empty.record "a" 2).record "b" 3 := rfl
  have built : m.samples.Built := samples ▸ .record "b" (by decide) (.record "a" (by decide) .empty)
  have fits : m.samples.whole ≤ Millis.last := by decide
  have keys : m.catalog.keys = ["a", "b"] := rfl
  have known : ∀ key ms, m.samples.get? key = some ms → key ∈ m.catalog.keys := by
    intro key ms found
    rw [keys, List.mem_pair]
    by_contra neither
    obtain ⟨notFirst, notSecond⟩ := not_or.mp neither
    rw [samples, Samples.get?_record, if_neg notSecond, Samples.get?_record, if_neg notFirst] at found
    cases found
  have measured : ∃ key ms, m.samples.get? key = some ms ∧ 0 < ms := ⟨"a", 2, by decide, by decide⟩
  have average : n.samples.average = 3 := by decide
  have lags := some_city_earns_no_bonus ⟨5, 100⟩ ⟨default, "se"⟩ distinct built fits known measured
  exact ⟨distinct, built, fits, known, measured, average, average ▸ lags⟩

end Monitor

end RelayQuality
