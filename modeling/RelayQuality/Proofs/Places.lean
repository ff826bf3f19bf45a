import RelayQuality.Catalog
import RelayQuality.Proofs.Lists

/-!
# Places of cities

`city?` is the view through which changes of a catalog are seen: `modifyCity` changes one place,
`mapCities` changes all. Where no key is listed twice, a key has one place.
-/

namespace RelayQuality.Catalog

theorem city?_eq_some {c : Catalog} {p : Position} {city : City} :
    c.city? p = some city ↔
      ∃ country, c.countries[p.country]? = some country ∧ country.cities[p.city]? = some city := by
  simp [city?, Option.bind_eq_some_iff]

theorem mem_cities {c : Catalog} {city : City} : city ∈ c.cities ↔ ∃ p, c.city? p = some city := by
  simp only [cities, List.mem_flatMap, city?_eq_some]
  constructor
  · rintro ⟨country, listed, member⟩
    obtain ⟨i, first⟩ := List.mem_iff_getElem?.mp listed
    obtain ⟨j, second⟩ := List.mem_iff_getElem?.mp member
    exact ⟨⟨i, j⟩, country, first, second⟩
  · rintro ⟨p, country, first, second⟩
    exact ⟨country, List.mem_of_getElem? first, List.mem_of_getElem? second⟩

theorem mem_positioned {c : Catalog} {p : Position} {city : City} :
    (p, city) ∈ c.positioned ↔ c.city? p = some city := by
  obtain ⟨i, j⟩ := p
  simp only [positioned, List.mem_flatMap, List.mem_map, Prod.exists, List.mk_mem_zipIdx_iff_getElem?, city?_eq_some,
    Prod.mk.injEq, Position.mk.injEq]
  constructor
  · rintro ⟨country, i', first, city', j', second, ⟨rfl, rfl⟩, rfl⟩
    exact ⟨country, first, second⟩
  · rintro ⟨country, first, second⟩
    exact ⟨country, i, first, city, j, second, ⟨rfl, rfl⟩, rfl⟩

/-! ### Changes -/

theorem city?_modifyCity (c : Catalog) (p q : Position) (change : City → City) :
    (c.modifyCity p change).city? q = if q = p then (c.city? p).map change else c.city? q := by
  obtain ⟨i, j⟩ := p
  obtain ⟨k, l⟩ := q
  simp only [city?, modifyCity, List.getElem?_modify, Position.mk.injEq]
  by_cases country : i = k
  · subst country
    by_cases city : j = l
    · subst city
      cases c.countries[i]? <;> simp
    · have other : ¬ l = j := fun same => city same.symm
      cases c.countries[i]? <;> simp [city, other]
  · have other : ¬ k = i := fun same => country same.symm
    simp [country, other]

theorem city?_mapCities (c : Catalog) (change : City → City) (q : Position) :
    (c.mapCities change).city? q = (c.city? q).map change := by
  simp only [city?, mapCities, List.getElem?_map]
  cases c.countries[q.country]? <;> simp

theorem findIn?_mapCities (c : Catalog) (change : City → City) (code : String) (test : City → Bool) :
    (c.mapCities change).findIn? code test = c.findIn? code (test ∘ change) := by
  simp only [findIn?, mapCities, List.findIdx?_map, Function.comp_def, List.getElem?_map]
  cases c.countries.findIdx? fun country => country.code == code with
  | none => rfl
  | some i =>
    cases found : c.countries[i]? with
    | none => simp [found]
    | some country => simp [found, List.findIdx?_map, Function.comp_def]

theorem cityNamed?_mapCities (c : Catalog) (change : City → City) (same : ∀ city, (change city).name = city.name)
    (country name : String) : (c.mapCities change).cityNamed? country name = (c.cityNamed? country name).map change := by
  have test : (fun city : City => city.name == name) ∘ change = fun city => city.name == name := by
    funext city
    rw [Function.comp, same]
  rw [cityNamed?, cityNamed?, findName?, findName?, findIn?_mapCities, test]
  cases c.findIn? country fun city => city.name == name with
  | none => rfl
  | some p => exact city?_mapCities c change p

/-! ### Keys -/

theorem positionOf?_some {c : Catalog} {key : String} {p : Position} (found : c.positionOf? key = some p) :
    ∃ city, c.city? p = some city ∧ key ∈ city.keys := by
  obtain ⟨⟨q, city⟩, first, rfl⟩ := Option.map_eq_some_iff.mp found
  have listed := List.mem_reverse.mp (List.mem_of_find?_eq_some first)
  exact ⟨city, mem_positioned.mp listed, by simpa using List.find?_some first⟩

theorem positionOf?_none {c : Catalog} {key : String} (missing : c.positionOf? key = none) {p : Position} {city : City}
    (here : c.city? p = some city) : key ∉ city.keys := by
  have none := List.find?_eq_none.mp (Option.map_eq_none_iff.mp missing) (p, city)
    (List.mem_reverse.mpr (mem_positioned.mpr here))
  simpa using none

/-- No key stands in two places. -/
def OnePlace (c : Catalog) : Prop :=
  ∀ ⦃p q a b key⦄, c.city? p = some a → c.city? q = some b → key ∈ a.keys → key ∈ b.keys → p = q

theorem OnePlace.of_keys {c d : Catalog} (onePlace : c.OnePlace)
    (same : ∀ {p city}, d.city? p = some city → ∃ old, c.city? p = some old ∧ old.keys = city.keys) : d.OnePlace := by
  intro p q a b key here there left right
  obtain ⟨old, first, keys⟩ := same here
  obtain ⟨old', second, keys'⟩ := same there
  exact onePlace first second (keys ▸ left) (keys' ▸ right)

theorem OnePlace.modifyCity {c : Catalog} (onePlace : c.OnePlace) {p : Position} {change : City → City}
    (keys : ∀ city, (change city).keys = city.keys) : (c.modifyCity p change).OnePlace := by
  refine onePlace.of_keys ?_
  intro q city here
  rw [city?_modifyCity] at here
  split at here
  next same =>
    obtain ⟨old, found, rfl⟩ := Option.map_eq_some_iff.mp here
    exact ⟨old, same ▸ found, (keys old).symm⟩
  next => exact ⟨city, here, rfl⟩

theorem OnePlace.mapCities {c : Catalog} (onePlace : c.OnePlace) {change : City → City}
    (keys : ∀ city, (change city).keys = city.keys) : (c.mapCities change).OnePlace := by
  refine onePlace.of_keys ?_
  intro q city here
  obtain ⟨old, found, rfl⟩ := Option.map_eq_some_iff.mp ((city?_mapCities _ _ _).symm.trans here)
  exact ⟨old, found, (keys old).symm⟩

theorem KeysDistinct.onePlace {c : Catalog} (distinct : c.KeysDistinct) : c.OnePlace := by
  intro p q a b key here there left right
  have nodup : (c.countries.flatMap fun country => country.cities.flatMap City.keys).Nodup := by
    rw [← List.flatMap_assoc]
    exact distinct
  obtain ⟨country, first, inner⟩ := city?_eq_some.mp here
  obtain ⟨country', first', inner'⟩ := city?_eq_some.mp there
  have same : p.country = q.country := index_of_nodup_flatMap nodup first first'
    (List.mem_flatMap.mpr ⟨a, List.mem_of_getElem? inner, left⟩)
    (List.mem_flatMap.mpr ⟨b, List.mem_of_getElem? inner', right⟩)
  obtain rfl : country = country' := Option.some.inj (first.symm.trans ((congrArg (c.countries[·]?) same).trans first'))
  have within := (List.nodup_flatMap.mp nodup).1 country (List.mem_of_getElem? first)
  have city : p.city = q.city := index_of_nodup_flatMap within inner inner' left right
  cases p
  cases q
  exact Position.mk.injEq .. ▸ ⟨same, city⟩

end RelayQuality.Catalog
