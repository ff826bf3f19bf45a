import RelayQuality.Proofs.Indexing
import RelayQuality.Proofs.Levels

/-!
# Look-up of cities

A look-up goes to the first country with the wanted code and searches only there. So it finds each city that the
catalog lists, but for those that `Hides` describes: another country with the same code stands in front of theirs.
-/

namespace RelayQuality

namespace Catalog

variable {c : Catalog} {code : String} {test : City → Bool} {p : Position} {country : Country}

/-- The catalog has a city under this country code that passes the test. -/
def Lists (c : Catalog) (code : String) (test : City → Bool) : Prop :=
  ∃ city ∈ c.cities, city.country = code ∧ test city = true

/-- The first country with this code has no city that passes the test, but another one has. -/
def Hides (c : Catalog) (code : String) (test : City → Bool) : Prop :=
  ∃ first, c.countries.find? (·.code == code) = some first ∧ (∀ city ∈ first.cities, test city = false) ∧
    ∃ other ∈ c.countries, other.code = code ∧ ∃ city ∈ other.cities, test city = true

/-- What a look-up owes: a city exactly if the catalog lists one, and then such a city. -/
structure Answers (c : Catalog) (code : String) (test : City → Bool) (found : Option Position) : Prop where
  complete : found.isSome ↔ c.Lists code test
  sound : ∀ p, found = some p → ∃ city, c.city? p = some city ∧ city.country = code ∧ test city = true

/-! ### The first country -/

theorem findIn?_of_missing (missing : c.countries.find? (·.code == code) = none) : c.findIn? code test = none := by
  have none : c.countries.findIdx? (·.code == code) = none := by
    rw [List.findIdx?_eq_none_iff]
    intro country listed
    simpa using List.find?_eq_none.mp missing country listed
  simp [findIn?, none]

theorem findIn?_of_first (test : City → Bool) (found : c.countries.find? (·.code == code) = some country) :
    ∃ i, c.countries[i]? = some country ∧
      c.findIn? code test = (country.cities.findIdx? test).map fun j => ⟨i, j⟩ := by
  obtain ⟨named, before, after, split, others⟩ := List.find?_eq_some_iff_append.mp found
  have missed : before.findIdx? (·.code == code) = none := by
    rw [List.findIdx?_eq_none_iff]
    intro other earlier
    simpa using others other earlier
  have index : c.countries.findIdx? (·.code == code) = some before.length := by
    rw [split, List.findIdx?_append, missed, List.findIdx?_cons, named]
    simp
  have here : c.countries[before.length]? = some country := by
    rw [split]
    simp
  refine ⟨before.length, here, ?_⟩
  unfold findIn?
  rw [index]
  simp only [Option.bind_eq_bind, Option.bind_some, here]
  cases country.cities.findIdx? test <;> rfl

/-! ### What is found -/

theorem Stamped.sound (stamped : c.Stamped) (found : c.findIn? code test = some p) :
    ∃ city, c.city? p = some city ∧ city.country = code ∧ test city = true := by
  cases first : c.countries.find? (·.code == code) with
  | none =>
    rw [findIn?_of_missing first] at found
    contradiction
  | some country =>
    obtain ⟨i, here, looked⟩ := findIn?_of_first test first
    rw [looked] at found
    obtain ⟨j, index, rfl⟩ := Option.map_eq_some_iff.mp found
    obtain ⟨inside, passes, _⟩ := List.findIdx?_eq_some_iff_getElem.mp index
    have named : country.code = code := by simpa using List.find?_some first
    have there : c.city? ⟨i, j⟩ = some country.cities[j] :=
      city?_eq_some.mpr ⟨country, here, List.getElem?_eq_getElem inside⟩
    refine ⟨country.cities[j], there, ?_, passes⟩
    rw [stamped country (List.mem_of_getElem? here) _ (List.getElem_mem inside), named]

theorem Stamped.lists_iff (stamped : c.Stamped) :
    c.Lists code test ↔ ∃ country ∈ c.countries, country.code = code ∧ ∃ city ∈ country.cities, test city = true := by
  simp only [Lists, cities, List.mem_flatMap]
  constructor
  · rintro ⟨city, ⟨country, listed, member⟩, rfl, passes⟩
    exact ⟨country, listed, (stamped country listed city member).symm, city, member, passes⟩
  · rintro ⟨country, listed, rfl, city, member, passes⟩
    exact ⟨city, ⟨country, listed, member⟩, stamped country listed city member, passes⟩

theorem Stamped.lists_of_hides (stamped : c.Stamped) (hides : c.Hides code test) : c.Lists code test := by
  obtain ⟨_, _, _, other⟩ := hides
  exact stamped.lists_iff.mpr other

/-- A look-up misses what is not listed and what is hidden. -/
theorem Stamped.isSome_findIn? (stamped : c.Stamped) :
    (c.findIn? code test).isSome ↔ c.Lists code test ∧ ¬ c.Hides code test := by
  rw [stamped.lists_iff]
  cases first : c.countries.find? (·.code == code) with
  | none =>
    rw [findIn?_of_missing first]
    constructor
    · intro found
      contradiction
    · rintro ⟨⟨country, listed, named, _⟩, _⟩
      simpa [named] using List.find?_eq_none.mp first country listed
  | some country =>
    obtain ⟨i, here, looked⟩ := findIn?_of_first test first
    have named : country.code = code := by simpa using List.find?_some first
    rw [looked, Option.isSome_map, List.findIdx?_isSome, List.any_eq_true]
    constructor
    · rintro ⟨city, member, passes⟩
      refine ⟨⟨country, List.mem_of_getElem? here, named, city, member, passes⟩, ?_⟩
      rintro ⟨same, again, fails, _⟩
      obtain rfl : country = same := Option.some.inj (first.symm.trans again)
      exact Bool.false_ne_true ((fails city member).symm.trans passes)
    · rintro ⟨other, shown⟩
      by_contra none
      exact shown ⟨country, first, by simpa using none, other⟩

theorem Stamped.answers_iff (stamped : c.Stamped) :
    c.Answers code test (c.findIn? code test) ↔ ¬ c.Hides code test := by
  have found : (c.findIn? code test).isSome ↔ c.Lists code test ∧ ¬ c.Hides code test := stamped.isSome_findIn?
  constructor
  · intro answers hides
    have seen := found.mp (answers.complete.mpr (stamped.lists_of_hides hides))
    exact seen.2 hides
  · intro shown
    exact ⟨found.trans (and_iff_left shown), fun _ => stamped.sound⟩

theorem Stamped.isSome_city? (stamped : c.Stamped) :
    (c.findIn? code test >>= c.city?).isSome ↔ c.Lists code test ∧ ¬ c.Hides code test := by
  rw [← stamped.isSome_findIn?]
  cases found : c.findIn? code test with
  | none => simp
  | some p =>
    obtain ⟨city, here, _⟩ := stamped.sound found
    simp [here]

/-- Where no two countries share a code, nothing is hidden. -/
theorem not_hides (distinct : (c.countries.map Country.code).Nodup) (code : String) (test : City → Bool) :
    ¬ c.Hides code test := by
  rintro ⟨first, found, fails, other, listed, named, city, member, passes⟩
  have same : first = other := by
    refine List.inj_on_of_nodup_map distinct (List.mem_of_find?_eq_some found) listed ?_
    rw [named]
    simpa using List.find?_some found
  subst same
  exact Bool.false_ne_true ((fails city member).symm.trans passes)

theorem ofText_ofCountries {text : String} (accepted : ofText text = .ok c) :
    ∃ countries, c = ofCountries countries := by
  cases read : Json.read? text >>= Document.countries? with
  | none =>
    rw [ofText, read] at accepted
    contradiction
  | some countries => exact ⟨countries, ((ofText_eq_ok read).mp accepted).2.symm⟩

end Catalog

namespace Monitor

variable {m : Monitor}

theorem run_stamped (config : Config) (countries : List Country) (operations : List (Surroundings × Operation)) :
    ((ofConfig config (.ofCountries countries)).run operations).catalog.Stamped := by
  obtain ⟨_, reaches⟩ := run_directory config countries operations
  exact reaches.exact.stamped

theorem setCityCooldown_fst (stamped : m.catalog.Stamped) (now : Reading) (country code : String) (timeout : Int) :
    (m.setCityCooldown now country code timeout).1 = true ↔
      m.catalog.Lists country (·.code == code) ∧ ¬ m.catalog.Hides country (·.code == code) := by
  have known : (m.cityWithCode? country code).isSome =
      (m.catalog.findCode? country code >>= m.catalog.city?).isSome := by
    unfold cityWithCode?
    cases m.catalog.findCode? country code with
    | none => rfl
    | some p => cases here : m.catalog.city? p <;> simp [here]
  rw [← stamped.isSome_city?]
  show _ ↔ (m.catalog.findCode? country code >>= m.catalog.city?).isSome = true
  rw [← known, setCityCooldown]
  cases m.cityWithCode? country code <;> simp

theorem multiHop_ne_noData (stamped : m.catalog.Stamped) (now : Reading) (exit entry : String × String) :
    m.multiHop now exit entry ≠ .noData ↔
      (m.catalog.Lists exit.1 (·.name == exit.2) ∧ ¬ m.catalog.Hides exit.1 (·.name == exit.2)) ∧
      m.catalog.Lists entry.1 (·.name == entry.2) ∧ ¬ m.catalog.Hides entry.1 (·.name == entry.2) := by
  rw [multiHop, Ne, Rating.multiHop_eq_noData, not_or, ← stamped.isSome_city?, ← stamped.isSome_city?]
  simp only [Option.isSome_iff_ne_none]
  rfl

end Monitor

/-- A look-up by country code finds a city exactly if one is listed, unless the first country with the code hides it. -/
theorem Catalog.look_ups_answer_iff {text : String} {c : Catalog} (accepted : Catalog.ofText text = .ok c) :
    (∀ country name, c.Answers country (·.name == name) (c.findName? country name) ↔
      ¬ c.Hides country (·.name == name)) ∧
    (∀ country code, c.Answers country (·.code == code) (c.findCode? country code) ↔
      ¬ c.Hides country (·.code == code)) ∧
    (∀ country name city, c.cityNamed? country name = some city →
      city ∈ c.cities ∧ city.country = country ∧ city.name = name) ∧
    ((c.countries.map Country.code).Nodup → ∀ country test, ¬ c.Hides country test) ∧
    ∀ config operations, let m := (Monitor.ofConfig config c).run operations
      (∀ now country code timeout, (m.setCityCooldown now country code timeout).1 = true ↔
        m.catalog.Lists country (·.code == code) ∧ ¬ m.catalog.Hides country (·.code == code)) ∧
      ∀ now exit entry, m.multiHop now exit entry ≠ .noData ↔
        (m.catalog.Lists exit.1 (·.name == exit.2) ∧ ¬ m.catalog.Hides exit.1 (·.name == exit.2)) ∧
        m.catalog.Lists entry.1 (·.name == entry.2) ∧ ¬ m.catalog.Hides entry.1 (·.name == entry.2) := by
  obtain ⟨countries, rfl⟩ := ofText_ofCountries accepted
  have stamped := ofCountries_stamped countries
  refine ⟨fun _ _ => stamped.answers_iff, fun _ _ => stamped.answers_iff, ?_, not_hides, ?_⟩
  · intro country name city named
    obtain ⟨p, found, here⟩ := Option.bind_eq_some_iff.mp named
    obtain ⟨same, there, home, passes⟩ := stamped.sound found
    obtain rfl : city = same := Option.some.inj (here.symm.trans there)
    exact ⟨mem_cities.mpr ⟨p, here⟩, home, by simpa using passes⟩
  · intro config operations m
    have stamped : m.catalog.Stamped := Monitor.run_stamped config countries operations
    exact ⟨Monitor.setCityCooldown_fst stamped, Monitor.multiHop_ne_noData stamped⟩

/-- Two countries with one code, and a city in each. -/
def splitCountry : List Country :=
  [⟨"se", "West", [{ code := "got", name := "Gothenburg", place := ⟨0, 0⟩, relays := [] }]⟩,
    ⟨"se", "East", [{ code := "sto", name := "Stockholm", place := ⟨0, 0⟩, relays := [⟨"a", .ofOctets 10 0 0 1⟩] }]⟩]

def splitCountryText : String :=
  "\x7b\"countries\":[\x7b\"code\":\"se\",\"name\":\"West\",\"cities\":[" ++
  "\x7b\"code\":\"got\",\"name\":\"Gothenburg\",\"latitude\":0,\"longitude\":0,\"servers\":[]\x7d]\x7d," ++
  "\x7b\"code\":\"se\",\"name\":\"East\",\"cities\":[" ++
  "\x7b\"code\":\"sto\",\"name\":\"Stockholm\",\"latitude\":0,\"longitude\":0,\"servers\":[" ++
  "\x7b\"public_key\":\"a\",\"ipv4_addr_in\":\"10.0.0.1\"\x7d]\x7d]\x7d]\x7d"

theorem splitCountryText_accepted : Catalog.ofText splitCountryText = .ok (.ofCountries splitCountry) := by
  have read : Json.read? splitCountryText >>= Catalog.Document.countries? = some splitCountry := by decide +kernel
  have distinct : (Catalog.ofCountries splitCountry).KeysDistinct := by
    unfold Catalog.KeysDistinct
    decide
  exact (Catalog.ofText_eq_ok read).mpr ⟨distinct, rfl⟩

/-- The first of the two countries is searched, the second is not. -/
theorem splitCountry_half_answered :
    let c := Catalog.ofCountries splitCountry
    Catalog.ofText splitCountryText = .ok c ∧
    c.Answers "se" (·.name == "Gothenburg") (c.findName? "se" "Gothenburg") ∧
    ¬ c.Answers "se" (·.name == "Stockholm") (c.findName? "se" "Stockholm") := by
  intro c
  obtain ⟨byName, _⟩ := Catalog.look_ups_answer_iff splitCountryText_accepted
  have hidden : c.Hides "se" (·.name == "Stockholm") :=
    ⟨_, rfl, by decide, _, List.mem_cons_of_mem _ List.mem_cons_self, rfl, _, List.mem_cons_self, rfl⟩
  refine ⟨splitCountryText_accepted, (byName "se" "Gothenburg").mpr ?_, fun answers => ?_⟩
  · rintro ⟨first, found, fails, _⟩
    cases found
    exact absurd (fails _ List.mem_cons_self) (by decide)
  · exact (byName "se" "Stockholm").mp answers hidden

/-- A city that the catalog lists is found neither by name nor by code, gets no cooldown and no grade. -/
theorem second_half_hidden :
    let c := Catalog.ofCountries splitCountry
    let m := Monitor.ofConfig {} c
    let now : Reading := ⟨0, 0⟩
    Catalog.ofText splitCountryText = .ok c ∧
    (∃ city ∈ c.cities, city.country = "se" ∧ city.name = "Stockholm" ∧ city.code = "sto") ∧
    c.cityNamed? "se" "Stockholm" = none ∧ c.findName? "se" "Stockholm" = none ∧ c.findCode? "se" "sto" = none ∧
    (m.setCityCooldown now "se" "sto" 60).1 = false ∧
    m.multiHop now ("se", "Stockholm") ("se", "Stockholm") = .noData := by
  intro c m now
  refine ⟨splitCountryText_accepted, ⟨_, List.mem_cons_of_mem _ List.mem_cons_self, rfl, rfl, rfl⟩, ?_⟩
  exact ⟨rfl, rfl, rfl, rfl, rfl⟩

end RelayQuality
