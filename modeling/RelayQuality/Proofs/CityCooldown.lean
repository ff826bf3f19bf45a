import RelayQuality.Proofs.Availability

/-!
# Cooldowns of a whole city

A city is suppressed at once without being rated, while its relays one by one rate it each time. In the end both leave
the same cooldowns, alarms and grades. Ratings of one city overwrite each other (`withCooldowns_again`), so only the last
of them counts, and that one finds no relay active.
-/

namespace RelayQuality

namespace Catalog

variable {c : Catalog} {p : Position}

theorem modifyCity_modifyCity (c : Catalog) (p : Position) (first second : City → City) :
    (c.modifyCity p first).modifyCity p second = c.modifyCity p (second ∘ first) := by
  simp only [modifyCity, List.modify_modify_eq, Function.comp_def]

theorem modifyCity_congr {first second : City → City} (same : ∀ city, c.city? p = some city → first city = second city) :
    c.modifyCity p first = c.modifyCity p second := by
  refine congrArg Catalog.mk (modify_congr fun country found => ?_)
  refine congrArg (Country.mk country.code country.name) (modify_congr fun city here => ?_)
  exact same city (city?_eq_some.mpr ⟨country, found, here⟩)

theorem OnePlace.positionOf?_eq {key : String} {city : City} (onePlace : c.OnePlace) (here : c.city? p = some city)
    (listed : key ∈ city.keys) : c.positionOf? key = some p := by
  cases found : c.positionOf? key with
  | none => exact absurd listed (positionOf?_none found here)
  | some q =>
    obtain ⟨other, there, listed'⟩ := positionOf?_some found
    rw [onePlace there here listed' listed]

end Catalog

theorem Epoch.lt_add {now timeout : Int} (early : now < last) (positive : 0 < timeout) : now < add now timeout := by
  unfold add clamp
  unfold last at early ⊢
  omega

namespace Monitor

variable {m : Monitor} {now : Reading} {p : Position} {city : City}

/-- The monitor under other cooldowns, with one city rated by them. -/
def withCooldowns (m : Monitor) (now : Reading) (p : Position) (cooldowns : Cooldowns) : Monitor :=
  ({ m with cooldowns }.rerateCity now p).armCooldown now

theorem withCooldowns_eq (m : Monitor) (now : Reading) (p : Position) (cooldowns : Cooldowns) :
    m.withCooldowns now p cooldowns = { m with
      cooldowns
      catalog := m.catalog.modifyCity p (m.rating.updated m.origin m.samples cooldowns now.epoch)
      alarms.cooldown := cooldowns.nextEnd?.map fun second => Millis.add now.millis (millisUntil now.epoch second)
      alarms.progress := some (m.alarms.progress.getD (Millis.add now.millis m.config.progressDelay.millis)) } := by
  rw [withCooldowns, rerateCity_eq]
  rfl

/-- The second rating overwrites all that the first one wrote. -/
theorem withCooldowns_again (m : Monitor) (now : Reading) (p : Position) (first second : Cooldowns) :
    (m.withCooldowns now p first).withCooldowns now p second = m.withCooldowns now p second := by
  rw [withCooldowns_eq (m.withCooldowns now p first), withCooldowns_eq m now p first, withCooldowns_eq m now p second]
  simp only [Catalog.modifyCity_modifyCity]
  rfl

theorem setCooldown_eq {key : String} (timeout : Int) (found : m.catalog.positionOf? key = some p) :
    m.setCooldown now key timeout = m.withCooldowns now p (m.cooldowns.set key timeout now.epoch) := by
  rw [setCooldown, rerateKey, found]
  rfl

theorem withCooldowns_leads {key : String} (cooldowns : Cooldowns) (onePlace : m.catalog.OnePlace)
    (here : m.catalog.city? p = some city) (listed : key ∈ city.keys) :
    (m.withCooldowns now p cooldowns).catalog.positionOf? key = some p := by
  have changed : (m.withCooldowns now p cooldowns).catalog =
      m.catalog.modifyCity p (m.rating.updated m.origin m.samples cooldowns now.epoch) := by rw [withCooldowns_eq]
  have still : (m.withCooldowns now p cooldowns).catalog.OnePlace := by
    rw [changed]
    exact onePlace.modifyCity fun _ => rfl
  have rated : (m.withCooldowns now p cooldowns).catalog.city? p =
      some (m.rating.updated m.origin m.samples cooldowns now.epoch city) := by
    rw [changed, Catalog.city?_modifyCity, if_pos rfl, here, Option.map_some]
  exact still.positionOf?_eq rated listed

/-- Each relay overwrites what the one before it had rated. -/
theorem foldl_setCooldown_again (timeout : Int) (onePlace : m.catalog.OnePlace) (here : m.catalog.city? p = some city)
    (keys : List String) (cooldowns : Cooldowns) (listed : ∀ key ∈ keys, key ∈ city.keys) :
    keys.foldl (fun m key => m.setCooldown now key timeout) (m.withCooldowns now p cooldowns) =
      m.withCooldowns now p (keys.foldl (fun c key => c.set key timeout now.epoch) cooldowns) := by
  induction keys generalizing cooldowns with
  | nil => rfl
  | cons key keys ih =>
    obtain ⟨first, others⟩ := List.forall_mem_cons.mp listed
    have kept : (m.withCooldowns now p cooldowns).cooldowns = cooldowns := by rw [withCooldowns_eq]
    rw [List.foldl_cons, List.foldl_cons, setCooldown_eq timeout (withCooldowns_leads cooldowns onePlace here first),
      withCooldowns_again, kept]
    exact ih _ others

/-- Relays of one city, set one by one, rate the city by all of their cooldowns in the end. -/
theorem foldl_setCooldown (timeout : Int) (onePlace : m.catalog.OnePlace) (here : m.catalog.city? p = some city)
    {keys : List String} (nonempty : keys ≠ []) (listed : ∀ key ∈ keys, key ∈ city.keys) :
    keys.foldl (fun m key => m.setCooldown now key timeout) m =
      m.withCooldowns now p (keys.foldl (fun c key => c.set key timeout now.epoch) m.cooldowns) := by
  cases keys with
  | nil => exact absurd rfl nonempty
  | cons key keys =>
    obtain ⟨first, others⟩ := List.forall_mem_cons.mp listed
    rw [List.foldl_cons, List.foldl_cons, setCooldown_eq timeout (onePlace.positionOf?_eq here first)]
    exact foldl_setCooldown_again timeout onePlace here keys _ others

/-- A city that is suppressed at once is kept as if it had been rated, but for its latency. -/
theorem withCooldowns_eq_suppressed (timeout : Int) (here : m.catalog.city? p = some city)
    (early : now.epoch < Epoch.last) (positive : 0 < timeout) :
    let bulk := (m.suppressCity now p city timeout).armCooldown now
    m.withCooldowns now p (city.keys.foldl (fun c key => c.set key timeout now.epoch) m.cooldowns) =
      { bulk with catalog := bulk.catalog.modifyCity p fun city =>
          { city with latency := m.samples.meanOf city.keys } } := by
  have sets : (fun (c : Cooldowns) key => c.set key timeout now.epoch) =
      fun c key => c.setEnd key (Epoch.add now.epoch timeout) := by
    funext c key
    exact if_neg (Int.not_le.mpr positive)
  have suppressed : ∀ key ∈ city.keys,
      (city.keys.foldl (fun c key => c.setEnd key (Epoch.add now.epoch timeout)) m.cooldowns).isSuppressed key now.epoch =
        true := by
    intro key listed
    rw [Cooldowns.isSuppressed, Cooldowns.endOf, Cooldowns.get?_setEnd_all, if_pos listed]
    exact decide_eq_true (Epoch.lt_add early positive)
  rw [sets, withCooldowns_eq, suppressCity, markChanged_eq]
  generalize city.keys.foldl (fun c key => c.setEnd key (Epoch.add now.epoch timeout)) m.cooldowns = cooldowns at suppressed
  have ratings : m.catalog.modifyCity p (m.rating.updated m.origin m.samples cooldowns now.epoch) =
      (m.catalog.modifyCity p fun city => { city with grade := .unavailable }).modifyCity p fun city =>
        { city with latency := m.samples.meanOf city.keys } := by
    rw [Catalog.modifyCity_modifyCity]
    refine Catalog.modifyCity_congr fun same found => ?_
    obtain rfl : city = same := Option.some.inj (here.symm.trans found)
    rw [Rating.updated, (m.rating.grade_eq_unavailable_iff city m.origin m.samples cooldowns now.epoch).mpr suppressed]
    rfl
  rw [ratings]
  rfl

/-- A city that is lifted at once is kept as if it had been rated. -/
theorem withCooldowns_eq_lifted {timeout : Int} (lifts : timeout ≤ 0) :
    m.withCooldowns now p (city.keys.foldl (fun c key => c.set key timeout now.epoch) m.cooldowns) =
      (m.liftCity now p city).armCooldown now := by
  have sets : (fun (c : Cooldowns) key => c.set key timeout now.epoch) = Cooldowns.lift := by
    funext c key
    exact if_pos lifts
  rw [sets]
  rfl

/-- To suppress or to lift a city at once leaves the cooldowns, alarms and grades that doing so relay by relay leaves;
only the latency of the city can differ. -/
theorem city_cooldown_is_one_by_one {country code : String} (timeout : Int) (distinct : m.catalog.KeysDistinct)
    (named : m.cityWithCode? country code = some (p, city)) (nonempty : city.relays ≠ []) (early : now.epoch < Epoch.last) :
    let bulk := m.setCityCooldown now country code timeout
    let single := city.keys.foldl (fun m key => m.setCooldown now key timeout) m
    bulk.1 = true ∧
    bulk.2.cooldowns = single.cooldowns ∧
    bulk.2.alarms = single.alarms ∧
    (∀ q, (bulk.2.catalog.city? q).map City.grade = (single.catalog.city? q).map City.grade) ∧
    (∀ q, q ≠ p → bulk.2.catalog.city? q = m.catalog.city? q ∧ single.catalog.city? q = m.catalog.city? q) ∧
    (timeout ≤ 0 → single = bulk.2) ∧
    (0 < timeout → single = { bulk.2 with catalog := bulk.2.catalog.modifyCity p fun city =>
      { city with latency := m.samples.meanOf city.keys } }) := by
  intro bulk single
  have here := city?_of_cityWithCode? named
  have keys : city.keys ≠ [] := fun none => nonempty (List.map_eq_nil_iff.mp none)
  have bulk_eq : bulk = (true, (if timeout ≤ 0 then m.liftCity now p city else m.suppressCity now p city timeout).armCooldown
      now) := by
    simp only [bulk, setCityCooldown, named]
  have single_eq : single = m.withCooldowns now p (city.keys.foldl (fun c key => c.set key timeout now.epoch) m.cooldowns) :=
    foldl_setCooldown timeout distinct.onePlace here keys fun _ listed => listed
  have lifts : timeout ≤ 0 → single = bulk.2 := by
    intro lifts
    rw [single_eq, bulk_eq, withCooldowns_eq_lifted lifts]
    simp only [if_pos lifts]
  have suppresses : 0 < timeout → single = { bulk.2 with catalog := bulk.2.catalog.modifyCity p fun city =>
      { city with latency := m.samples.meanOf city.keys } } := by
    intro positive
    rw [single_eq, bulk_eq, withCooldowns_eq_suppressed timeout here early positive]
    simp only [if_neg (Int.not_le.mpr positive)]
  have elsewhere : ∀ q, q ≠ p → single.catalog.city? q = m.catalog.city? q := by
    intro q other
    rw [single_eq, withCooldowns_eq, Catalog.city?_modifyCity, if_neg other]
  have same : bulk.2.cooldowns = single.cooldowns ∧ bulk.2.alarms = single.alarms ∧
      (∀ q, (bulk.2.catalog.city? q).map City.grade = (single.catalog.city? q).map City.grade) ∧
      (∀ q, q ≠ p → bulk.2.catalog.city? q = single.catalog.city? q) := by
    by_cases positive : 0 < timeout
    · rw [suppresses positive]
      refine ⟨rfl, rfl, fun q => ?_, fun q other => ?_⟩
      · rw [Catalog.city?_modifyCity]
        split
        next same => rw [same, Option.map_map]; rfl
        next => rfl
      · rw [Catalog.city?_modifyCity, if_neg other]
    · rw [lifts (Int.not_lt.mp positive)]
      exact ⟨rfl, rfl, fun _ => rfl, fun _ _ => rfl⟩
  obtain ⟨cooldowns, alarms, grades, others⟩ := same
  exact ⟨by rw [bulk_eq], cooldowns, alarms, grades,
    fun q other => ⟨(others q other).trans (elsewhere q other), elsewhere q other⟩, lifts, suppresses⟩

/-- A city with one relay measured and the other suppressed for longer, suppressed by one call or by two. -/
theorem twinRelays_suppressed_alike :
    let m := (ofConfig {} twinRelays).run
      [(⟨⟨0, 100⟩, true⟩, .recordLatency "a" 40), (⟨⟨2000, 102⟩, true⟩, .setCooldown "b" 500)]
    let now : Reading := ⟨5000, 105⟩
    let bulk := (m.setCityCooldown now "se" "got" 60).2
    let single := (m.setCooldown now "a" 60).setCooldown now "b" 60
    m.catalog.KeysDistinct ∧ (m.cityWithCode? "se" "got").map (fun found => found.2.keys) = some ["a", "b"] ∧
    now.epoch < Epoch.last ∧ bulk.cooldowns = single.cooldowns ∧ bulk.alarms = single.alarms ∧
    bulk.catalog.cities.map City.grade = [.unavailable] := by
  intro m now bulk single
  have distinct : m.catalog.KeysDistinct := by
    unfold Catalog.KeysDistinct
    decide
  have early : now.epoch < Epoch.last := by decide
  have found : (m.cityWithCode? "se" "got").map (fun found => found.2.keys) = some ["a", "b"] := rfl
  obtain ⟨⟨p, city⟩, named, keys⟩ := Option.map_eq_some_iff.mp found
  have nonempty : city.relays ≠ [] := fun none => by simp [City.keys, none] at keys
  have alike := city_cooldown_is_one_by_one 60 distinct named nonempty early
  have keys : city.keys = ["a", "b"] := keys
  rw [keys] at alike
  exact ⟨distinct, found, early, alike.2.1, alike.2.2.1, rfl⟩

end Monitor

end RelayQuality
