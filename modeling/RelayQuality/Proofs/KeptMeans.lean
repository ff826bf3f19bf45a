import Mathlib.Data.List.Induction
import RelayQuality.Proofs.Places
import RelayQuality.Proofs.Run
import RelayQuality.Proofs.Sampling

/-!
# Means that are kept

A city is kept with the mean of its relays' samples. Ratings bring the mean up to date, and a record rates the one city
that it concerns. But samples are dropped without a rating: until the next one, the city is kept with the mean of
samples that are gone (`LeftBehind`).
-/

namespace RelayQuality.Monitor

variable {m n k : Monitor}

/-- The samples stay, and each city keeps its latency or is given the mean of its relays. -/
structure Rerated (m n : Monitor) : Prop where
  samples : n.samples = m.samples
  cities : ∀ {p city}, n.catalog.city? p = some city → ∃ old, m.catalog.city? p = some old ∧ old.keys = city.keys ∧
    (city.latency = old.latency ∨ city.latency = n.samples.meanOf city.keys)

/-- Each city is given the mean of its relays, or keeps its latency while the samples of its relays stay or all
samples are dropped. -/
structure Fate (m n : Monitor) : Prop where
  cities : ∀ {p city}, n.catalog.city? p = some city → ∃ old, m.catalog.city? p = some old ∧ old.keys = city.keys ∧
    (city.latency = n.samples.meanOf city.keys ∨
      city.latency = old.latency ∧
        ((∀ key ∈ city.keys, n.samples.get? key = m.samples.get? key) ∨ n.samples = .empty))

namespace Rerated

theorem of_same (catalog : n.catalog = m.catalog) (samples : n.samples = m.samples) : Rerated m n := by
  refine ⟨samples, fun {p city} here => ?_⟩
  rw [catalog] at here
  exact ⟨city, here, rfl, Or.inl rfl⟩

theorem trans (first : Rerated m n) (second : Rerated n k) : Rerated m k := by
  refine ⟨second.samples.trans first.samples, fun {p city} here => ?_⟩
  obtain ⟨between, there, keys, latency⟩ := second.cities here
  obtain ⟨old, before, keys', latency'⟩ := first.cities there
  refine ⟨old, before, keys'.trans keys, ?_⟩
  rcases latency with same | mean
  · rw [same, second.samples, ← keys]
    exact latency'
  · exact Or.inr mean

theorem fate (rerated : Rerated m n) : Fate m n := by
  refine ⟨fun {p city} here => ?_⟩
  obtain ⟨old, there, keys, latency⟩ := rerated.cities here
  refine ⟨old, there, keys, ?_⟩
  rcases latency with same | mean
  · exact Or.inr ⟨same, Or.inl fun key _ => by rw [rerated.samples]⟩
  · exact Or.inl mean

end Rerated

namespace Fate

theorem then_rerated (fate : Fate m n) (rerated : Rerated n k) : Fate m k := by
  refine ⟨fun {p city} here => ?_⟩
  obtain ⟨between, there, keys, latency⟩ := rerated.cities here
  obtain ⟨old, before, keys', latency'⟩ := fate.cities there
  refine ⟨old, before, keys'.trans keys, ?_⟩
  rcases latency with same | mean
  · rw [same, rerated.samples, ← keys]
    exact latency'
  · exact Or.inl mean

theorem of_catalog (catalog : n.catalog = m.catalog) (samples : n.samples = m.samples ∨ n.samples = .empty) :
    Fate m n := by
  refine ⟨fun {p city} here => ?_⟩
  rw [catalog] at here
  exact ⟨city, here, rfl, Or.inr ⟨rfl, samples.imp_left fun same key _ => by rw [same]⟩⟩

theorem of_frame (frame : n.frame = m.frame) (samples : n.samples = m.samples ∨ n.samples = .empty) : Fate m n :=
  of_catalog (congrArg Frame.catalog frame) samples

theorem onePlace (fate : Fate m n) (distinct : m.catalog.OnePlace) : n.catalog.OnePlace := by
  refine distinct.of_keys fun here => ?_
  obtain ⟨old, there, keys, _⟩ := fate.cities here
  exact ⟨old, there, keys⟩

end Fate

/-! ### Ratings -/

theorem rerateCity_city? (m : Monitor) (now : Reading) (p q : Position) :
    (m.rerateCity now p).catalog.city? q =
      if q = p then (m.catalog.city? p).map (m.rated now.epoch) else m.catalog.city? q := by
  rw [rerateCity_eq]
  exact Catalog.city?_modifyCity _ _ _ _

theorem rerateCity_rerated (m : Monitor) (now : Reading) (p : Position) : Rerated m (m.rerateCity now p) := by
  have samples : (m.rerateCity now p).samples = m.samples := by rw [rerateCity_eq]
  refine ⟨samples, fun {q city} here => ?_⟩
  rw [samples]
  rw [rerateCity_city?] at here
  split at here
  next same =>
    obtain ⟨old, found, rfl⟩ := Option.map_eq_some_iff.mp here
    exact ⟨old, same ▸ found, rfl, Or.inr rfl⟩
  next => exact ⟨city, here, rfl, Or.inl rfl⟩

theorem rerateKey_rerated (m : Monitor) (now : Reading) (key : String) : Rerated m (m.rerateKey now key) := by
  unfold rerateKey
  split
  · exact rerateCity_rerated m now _
  · exact .of_same rfl rfl

theorem setObserver_rerated (m : Monitor) (now : Reading) (o : Observer) : Rerated m (m.setObserver now o) := by
  unfold setObserver rerateAll
  rw [markChanged_eq]
  refine ⟨rfl, fun {p city} here => ?_⟩
  obtain ⟨old, found, rfl⟩ := Option.map_eq_some_iff.mp ((Catalog.city?_mapCities _ _ _).symm.trans here)
  exact ⟨old, found, rfl, Or.inr rfl⟩

theorem setCooldown_rerated (m : Monitor) (now : Reading) (key : String) (timeout : Int) :
    Rerated m (m.setCooldown now key timeout) :=
  Rerated.trans (n := { m with cooldowns := m.cooldowns.set key timeout now.epoch }) (.of_same rfl rfl)
    ((rerateKey_rerated _ now key).trans (.of_same rfl rfl))

/-- Relays that are suppressed together change the grade of their city and nothing else. -/
theorem suppressCity_rerated (m : Monitor) (now : Reading) (p : Position) (city : City) (timeout : Int) :
    Rerated m (m.suppressCity now p city timeout) := by
  unfold suppressCity
  rw [markChanged_eq]
  refine ⟨rfl, fun {q other} here => ?_⟩
  rw [Catalog.city?_modifyCity] at here
  split at here
  next same =>
    obtain ⟨old, found, rfl⟩ := Option.map_eq_some_iff.mp here
    exact ⟨old, same ▸ found, rfl, Or.inl rfl⟩
  next => exact ⟨other, here, rfl, Or.inl rfl⟩

theorem setCityCooldown_rerated (m : Monitor) (now : Reading) (country code : String) (timeout : Int) :
    Rerated m (m.setCityCooldown now country code timeout).2 := by
  unfold setCityCooldown
  split
  · exact .of_same rfl rfl
  next p city _ =>
    have changed : Rerated m (if timeout ≤ 0 then m.liftCity now p city else m.suppressCity now p city timeout) := by
      split
      · exact Rerated.trans (n := { m with cooldowns := city.keys.foldl Cooldowns.lift m.cooldowns }) (.of_same rfl rfl)
          (rerateCity_rerated _ now p)
      · exact suppressCity_rerated m now p city timeout
    exact changed.trans (.of_same rfl rfl)

theorem clearExpiredCooldowns_rerated (m : Monitor) (now : Reading) : Rerated m (m.clearExpiredCooldowns now) := by
  have lifted : Rerated m { m with cooldowns := m.cooldowns.dropExpired now.epoch } := .of_same rfl rfl
  have rated := rerateKeys_keep (fun known => known.trans (rerateKey_rerated _ now _)) (m.cooldowns.expired now.epoch)
    lifted
  exact rated.trans (.of_same rfl rfl)

/-! ### Samples -/

theorem recordLatency_fate (now : Reading) (key : String) (ms : Nat) (onePlace : m.catalog.OnePlace) :
    Fate m (m.recordLatency now key ms) := by
  have unlike : ∀ {city : City}, key ∉ city.keys →
      ∀ other ∈ city.keys, (m.recordLatency now key ms).samples.get? other = m.samples.get? other := by
    intro city missing other listed
    rw [recordLatency, rerateKey_samples, Samples.get?_record, if_neg fun same : other = key => missing (same ▸ listed)]
  refine ⟨fun {q city} here => ?_⟩
  by_cases lists : key ∈ city.keys
  · -- the key leads to this very place, so this is the city that is rated
    unfold recordLatency rerateKey at here ⊢
    split at here
    next p found =>
      rw [rerateCity_city?] at here
      split at here
      next same =>
        obtain ⟨old, there, rfl⟩ := Option.map_eq_some_iff.mp here
        refine ⟨old, same ▸ there, rfl, Or.inl ?_⟩
        rw [rerateCity_eq]
        rfl
      next elsewhere =>
        obtain ⟨home, there, listed⟩ := Catalog.positionOf?_some found
        exact absurd (onePlace here there lists listed) elsewhere
    next missing => exact absurd lists (Catalog.positionOf?_none missing here)
  · have rated : Rerated { m with samples := m.samples.record key ms } (m.recordLatency now key ms) :=
      rerateKey_rerated _ now key
    obtain ⟨old, there, keys, latency⟩ := rated.cities here
    exact ⟨old, there, keys, latency.symm.imp_right fun same => ⟨same, Or.inl (unlike lists)⟩⟩

theorem hearReply_fate (now : Reading) (sequence : UInt16) (onePlace : m.catalog.OnePlace) :
    Fate m (m.hearReply now sequence) := by
  rcases hearReply_cases m now sequence with ⟨_, same⟩ | ⟨_, p, _, _, same⟩ <;> rw [same]
  · exact (Rerated.of_same rfl rfl).fate
  · have recorded : Fate { m with sweep := m.sweep.answered p.sequence } (m.answered now p) :=
      recordLatency_fate now p.key _ onePlace
    have answered : Fate m (m.answered now p) := ⟨recorded.cities⟩
    exact answered.then_rerated (.of_same (congrArg Frame.catalog (frame_tick _ now)) (tick_samples _ now))

theorem hear_fate (now : Reading) (event : TransportEvent) (onePlace : m.catalog.OnePlace) :
    Fate m (m.hear now event) :=
  hear_keeps (Rerated.of_same rfl rfl).fate (fun sequence => hearReply_fate now sequence onePlace) event

theorem ring_fate (m : Monitor) (s : Surroundings) : Fate m (m.ring s) := by
  have swept : Fate m (m.sweepRung s) := .of_frame (frame_sweepRung m s) (sweepRung_samples m s)
  refine ring_keeps swept ?_ ?_
  · exact fun fate => fate.then_rerated (clearExpiredCooldowns_rerated _ s.now)
  · exact fun fate => fate.then_rerated (.of_same rfl rfl)

theorem step_fate {s : Surroundings} {op : Operation} (untouched : ∀ countries, op ≠ .replaceCatalog countries)
    (onePlace : m.catalog.OnePlace) : Fate m (m.step s op) := by
  cases op with
  | activate => exact .of_frame (frame_activate m s.now) (Or.inl (activate_samples m s.now))
  | start => exact .of_frame (frame_start m s) (start_samples m s)
  | stop => exact .of_frame (frame_stop m s.now) (Or.inl (stop_samples m s.now))
  | refresh => exact .of_frame (frame_refresh m s) (refresh_samples m s)
  | clear => exact .of_catalog rfl (Or.inr rfl)
  | shutdown => exact .of_catalog rfl (Or.inl rfl)
  | tick => exact .of_frame (frame_tick m s.now) (Or.inl (tick_samples m s.now))
  | ring => exact ring_fate m s
  | catalogChanged => exact .of_frame (frame_start m s) (start_samples m s)
  | clearExpiredCooldowns => exact (clearExpiredCooldowns_rerated m s.now).fate
  | hearReply sequence => exact hearReply_fate s.now sequence onePlace
  | hear event => exact hear_fate s.now event onePlace
  | setEnabled enabled => exact .of_frame (frame_setEnabled m s enabled) (setEnabled_samples m s enabled)
  | setObserver o => exact (setObserver_rerated m s.now o).fate
  | setTunnel tunnel => exact .of_catalog (setTunnel_catalog m s tunnel) (setTunnel_samples m s tunnel)
  | setApplication application =>
    exact .of_catalog (setApplication_catalog m s application) (setApplication_samples m s application)
  | recordLatency key ms => exact recordLatency_fate s.now key ms onePlace
  | setCooldown key timeout => exact (setCooldown_rerated m s.now key timeout).fate
  | setCityCooldown country code timeout => exact (setCityCooldown_rerated m s.now country code timeout).fate
  | replaceCatalog countries => exact absurd rfl (untouched countries)

/-! ### Runs -/

/-- A city with these keys and this latency is at the position, and none of its relays has a sample. -/
def Bare (n : Monitor) (p : Position) (city : City) : Prop :=
  (∃ kept, n.catalog.city? p = some kept ∧ kept.keys = city.keys ∧ kept.latency = city.latency) ∧
  ∀ key ∈ city.keys, n.samples.get? key = none

/-- The latency of the city, not zero, was the mean of its relays until an operation dropped all samples, and since
then its relays have no sample and the latency stays. -/
def LeftBehind (start : Monitor) (operations : List (Surroundings × Operation)) (p : Position) (city : City) : Prop :=
  ∃ before s op after, operations = before ++ (s, op) :: after ∧ city.latency ≠ 0 ∧
    city.latency = (start.run before).samples.meanOf city.keys ∧ ((start.run before).step s op).samples = .empty ∧
    ∀ later, later <+: after → Bare (((start.run before).step s op).run later) p city

variable {start : Monitor} {operations : List (Surroundings × Operation)} {p : Position} {city : City}

theorem LeftBehind.concat {old : City} {s : Surroundings} {op : Operation} (left : LeftBehind start operations p old)
    (keys : old.keys = city.keys) (latency : city.latency = old.latency)
    (bare : Bare (start.run (operations ++ [(s, op)])) p city) : LeftBehind start (operations ++ [(s, op)]) p city := by
  obtain ⟨before, s', op', after, rfl, some, mean, gone, kept⟩ := left
  refine ⟨before, s', op', after ++ [(s, op)], by simp, latency ▸ some, ?_, gone, ?_⟩
  · rw [latency, mean, keys]
  · intro later shorter
    rcases List.prefix_concat_iff.mp shorter with rfl | shorter
    · simpa [run_append, run_cons] using bare
    · obtain ⟨⟨there, found, keys', latency'⟩, none⟩ := kept later shorter
      exact ⟨⟨there, found, keys'.trans keys, latency'.trans latency.symm⟩, keys ▸ none⟩

theorem LeftBehind.bare (left : LeftBehind start operations p city) : Bare (start.run operations) p city := by
  obtain ⟨before, s, op, after, rfl, _, _, _, kept⟩ := left
  simpa [run_append, run_cons] using kept after (List.prefix_refl after)

theorem run_means (onePlace : start.catalog.OnePlace)
    (rated : ∀ {p city}, start.catalog.city? p = some city → city.latency = start.samples.meanOf city.keys)
    (untouched : ∀ entry ∈ operations, ∀ countries, entry.2 ≠ .replaceCatalog countries) :
    (start.run operations).catalog.OnePlace ∧
    ∀ {p city}, (start.run operations).catalog.city? p = some city →
      city.latency = (start.run operations).samples.meanOf city.keys ∨ LeftBehind start operations p city := by
  induction operations using List.reverseRecOn with
  | nil => exact ⟨onePlace, fun here => Or.inl (rated here)⟩
  | append_singleton before entry ih =>
    obtain ⟨s, op⟩ := entry
    obtain ⟨distinct, known⟩ := ih fun entry member => untouched entry (List.mem_append_left _ member)
    have fate : Fate (start.run before) (start.run (before ++ [(s, op)])) := by
      rw [run_concat]
      exact step_fate (untouched (s, op) (by simp)) distinct
    refine ⟨fate.onePlace distinct, fun {p city} here => ?_⟩
    obtain ⟨old, there, keys, mean | ⟨latency, same | gone⟩⟩ := fate.cities here
    · exact Or.inl mean
    · rcases known there with mean | left
      · rw [latency, mean, keys, Samples.meanOf_congr fun key listed => (same key listed).symm]
        exact Or.inl rfl
      · refine Or.inr (left.concat keys latency ⟨⟨city, here, rfl, rfl⟩, fun key listed => ?_⟩)
        rw [same key listed]
        exact left.bare.2 key (keys ▸ listed)
    · have none : ∀ key ∈ city.keys, (start.run (before ++ [(s, op)])).samples.get? key = none := by
        rw [gone]
        exact fun _ _ => rfl
      have bare : Bare (start.run (before ++ [(s, op)])) p city := ⟨⟨city, here, rfl, rfl⟩, none⟩
      rcases known there with mean | left
      · by_cases zero : city.latency = 0
        · rw [zero, Samples.meanOf_eq_zero none]
          exact Or.inl rfl
        · refine Or.inr ⟨before, s, op, [], rfl, zero, by rw [latency, mean, keys], run_concat .. ▸ gone, ?_⟩
          intro later shorter
          obtain rfl := List.prefix_nil.mp shorter
          rw [run_concat] at bare
          exact bare
      · exact Or.inr (left.concat keys latency bare)

/-- The latency that a city keeps strays from the mean of its relays exactly if the city was left behind when samples
were dropped. -/
theorem kept_latency_strays_iff (config : Config) {catalog : Catalog} {operations : List (Surroundings × Operation)}
    (distinct : catalog.KeysDistinct) (fresh : ∀ city ∈ catalog.cities, city.latency = 0)
    (untouched : ∀ entry ∈ operations, ∀ countries, entry.2 ≠ .replaceCatalog countries) :
    let start := ofConfig config catalog
    let m := start.run operations
    ∀ p city, m.catalog.city? p = some city →
      (city.latency ≠ m.samples.meanOf city.keys ↔ LeftBehind start operations p city) := by
  intro start m p city here
  have rated : ∀ {p city}, start.catalog.city? p = some city → city.latency = start.samples.meanOf city.keys := by
    intro p city there
    rw [Samples.meanOf_eq_zero (s := start.samples) fun _ _ => rfl]
    exact fresh city (Catalog.mem_cities.mpr ⟨p, there⟩)
  have onePlace : start.catalog.OnePlace := distinct.onePlace
  obtain ⟨_, known⟩ := run_means onePlace rated untouched
  constructor
  · exact fun strays => (known here).resolve_left strays
  · intro left
    have none := left.bare.2
    obtain ⟨_, _, _, _, _, some, _⟩ := left
    rw [Samples.meanOf_eq_zero none]
    exact some

/-- A catalog of two cities with one relay each. -/
def neighbours : Catalog :=
  ⟨[⟨"se", "Sweden", [
    { code := "got", name := "Gothenburg", country := "se", place := default, relays := [⟨"a", default⟩] },
    { code := "mma", name := "Malmo", country := "se", place := default, relays := [⟨"b", default⟩] }]⟩]⟩

/-- Samples are dropped, then a cooldown rates the second city again, but not the first. -/
def droppedSamples : List (Surroundings × Operation) :=
  [(⟨⟨0, 100⟩, true⟩, .recordLatency "a" 40), (⟨⟨1000, 101⟩, true⟩, .recordLatency "b" 60),
    (⟨⟨2000, 102⟩, true⟩, .clear), (⟨⟨3000, 103⟩, true⟩, .setCooldown "b" 30)]

theorem droppedSamples_stray :
    let start := ofConfig {} neighbours
    let m := start.run droppedSamples
    neighbours.KeysDistinct ∧ (∀ city ∈ neighbours.cities, city.latency = 0) ∧
    (∀ entry ∈ droppedSamples, ∀ countries, entry.2 ≠ .replaceCatalog countries) ∧
    ∃ first second, m.catalog.city? ⟨0, 0⟩ = some first ∧ m.catalog.city? ⟨0, 1⟩ = some second ∧
      first.latency = 40 ∧ LeftBehind start droppedSamples ⟨0, 0⟩ first ∧
      second.latency = 0 ∧ ¬ LeftBehind start droppedSamples ⟨0, 1⟩ second := by
  intro start m
  have distinct : neighbours.KeysDistinct := by
    unfold Catalog.KeysDistinct
    decide
  have fresh : ∀ city ∈ neighbours.cities, city.latency = 0 := by simp [neighbours, Catalog.cities]
  have untouched : ∀ entry ∈ droppedSamples, ∀ countries, entry.2 ≠ .replaceCatalog countries := by
    simp [droppedSamples]
  have latencies : (m.catalog.city? ⟨0, 0⟩).map City.latency = some 40 ∧
      (m.catalog.city? ⟨0, 1⟩).map City.latency = some 0 := by decide
  obtain ⟨first, here, forty⟩ := Option.map_eq_some_iff.mp latencies.1
  obtain ⟨second, there, zero⟩ := Option.map_eq_some_iff.mp latencies.2
  have dropped : m.samples = .empty :=
    (setCooldown_rerated (start.run (droppedSamples.take 3)) ⟨3000, 103⟩ "b" 30).samples
  have gone : ∀ keys, m.samples.meanOf keys = 0 := by
    rw [dropped]
    exact fun keys => Samples.meanOf_eq_zero fun _ _ => rfl
  have left : LeftBehind start droppedSamples ⟨0, 0⟩ first := by
    refine (kept_latency_strays_iff {} distinct fresh untouched ⟨0, 0⟩ first here).mp ?_
    rw [gone, forty]
    decide
  have kept : ¬ LeftBehind start droppedSamples ⟨0, 1⟩ second := by
    rw [← kept_latency_strays_iff {} distinct fresh untouched ⟨0, 1⟩ second there, gone, zero]
    decide
  exact ⟨distinct, fresh, untouched, first, second, here, there, forty, left, zero, kept⟩

/-- A city keeps the round trip of its only relay after all samples were dropped. -/
theorem cleared_city_keeps_latency :
    let operations : List (Surroundings × Operation) :=
      [(⟨⟨0, 100⟩, true⟩, .recordLatency "a" 40), (⟨⟨1000, 101⟩, true⟩, .clear)]
    let m := (ofConfig {} neighbours).run operations
    neighbours.KeysDistinct ∧ (∀ city ∈ neighbours.cities, city.latency = 0) ∧
    (∀ entry ∈ operations, ∀ countries, entry.2 ≠ .replaceCatalog countries) ∧
    ∃ city ∈ m.catalog.cities, city.keys = ["a"] ∧ city.latency = 40 ∧ m.samples.meanOf city.keys = 0 := by
  intro operations m
  have distinct : neighbours.KeysDistinct := by
    unfold Catalog.KeysDistinct
    decide
  have fresh : ∀ city ∈ neighbours.cities, city.latency = 0 := by simp [neighbours, Catalog.cities]
  have untouched : ∀ entry ∈ operations, ∀ countries, entry.2 ≠ .replaceCatalog countries := by simp [operations]
  exact ⟨distinct, fresh, untouched, _, List.mem_cons_self, rfl, by decide, by decide⟩

end RelayQuality.Monitor
