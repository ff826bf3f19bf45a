import Mathlib.Data.Finset.Card
import Mathlib.Logic.Relation
import RelayQuality.Catalog.Document
import RelayQuality.Proofs.Erasure
import RelayQuality.Proofs.Places

/-!
# The index of the catalog

The index is written city by city, so a key leads to the last city that lists it. `Directory` keeps the index beside the
tree, builds it anew when other countries are put in, and leaves it alone when ratings are written into the cities. That
is enough: it is always the index of the tree beside it, and finds what a search through the tree finds.
-/

namespace RelayQuality

/-- The position comes earlier in catalog order. -/
def Position.Before (p q : Position) : Prop := p.country < q.country ∨ p.country = q.country ∧ p.city < q.city

namespace Catalog

variable {c : Catalog} {key : String} {p q : Position}

/-! ### Look-up -/

theorem get?_index (c : Catalog) (key : String) : c.index.get? key = c.positionOf? key := by
  have written : ∀ (entries : List (Position × City)) (index : KeyMap Position),
      (entries.foldl (fun index entry => index.insertAll entry.2.keys entry.1) index).get? key =
        ((entries.reverse.find? fun entry => entry.2.keys.contains key).map Prod.fst).or (index.get? key) := by
    intro entries
    induction entries with
    | nil => exact fun _ => rfl
    | cons entry rest ih =>
      intro index
      -- the last city to list the key writes last, and is the first that the search from the back meets
      rw [List.foldl_cons, ih, KeyMap.get?_insertAll, List.reverse_cons, List.find?_append]
      by_cases listed : key ∈ entry.2.keys
      · cases rest.reverse.find? fun entry => entry.2.keys.contains key <;> simp [listed]
      · cases rest.reverse.find? fun entry => entry.2.keys.contains key <;> simp [listed]
  rw [index, written, KeyMap.get?_empty, Option.or_none, positionOf?]

theorem mem_keys : key ∈ c.keys ↔ ∃ p city, c.city? p = some city ∧ key ∈ city.keys := by
  simp only [keys, List.mem_flatMap, mem_cities]
  constructor
  · rintro ⟨city, ⟨p, here⟩, listed⟩
    exact ⟨p, city, here, listed⟩
  · rintro ⟨p, city, here, listed⟩
    exact ⟨city, ⟨p, here⟩, listed⟩

theorem isSome_positionOf? : (c.positionOf? key).isSome ↔ key ∈ c.keys := by
  rw [mem_keys]
  constructor
  · intro found
    obtain ⟨p, found⟩ := Option.isSome_iff_exists.mp found
    exact ⟨p, positionOf?_some found⟩
  · rintro ⟨p, city, here, listed⟩
    by_contra missing
    exact positionOf?_none (Option.not_isSome_iff_eq_none.mp missing) here listed

theorem relay?_of_position (found : c.positionOf? key = some p) :
    ∃ city, c.city? p = some city ∧ ∃ relay ∈ city.relays, relay.key = key ∧ c.relay? key = some relay := by
  obtain ⟨city, here, listed⟩ := positionOf?_some found
  obtain ⟨named, member, same⟩ := List.mem_map.mp listed
  have known : (city.relays.find? (·.key == key)).isSome := List.find?_isSome.mpr ⟨named, member, beq_iff_eq.mpr same⟩
  obtain ⟨relay, first⟩ := Option.isSome_iff_exists.mp known
  refine ⟨city, here, relay, List.mem_of_find?_eq_some first, by simpa using List.find?_some first, ?_⟩
  simp [relay?, found, here, first]

/-! ### Order -/

theorem positioned_ordered (c : Catalog) : c.positioned.Pairwise fun a b => a.1.Before b.1 := by
  refine List.pairwise_flatMap.mpr ⟨?_, ?_⟩
  · rintro ⟨country, i⟩ _
    refine List.pairwise_map.mpr ((zipIdx_ordered country.cities).imp ?_)
    exact fun before => Or.inr ⟨rfl, before⟩
  · refine (zipIdx_ordered c.countries).imp ?_
    intro a b before x first y second
    obtain ⟨_, _, rfl⟩ := List.mem_map.mp first
    obtain ⟨_, _, rfl⟩ := List.mem_map.mp second
    exact Or.inl before

/-- No city behind the one that is found lists the key. -/
theorem positionOf?_last (found : c.positionOf? key = some p) {other : City} (there : c.city? q = some other)
    (listed : key ∈ other.keys) : q = p ∨ q.Before p := by
  obtain ⟨⟨p, city⟩, first, rfl⟩ := Option.map_eq_some_iff.mp found
  obtain ⟨_, after, before, split, passed⟩ := List.find?_eq_some_iff_append.mp first
  -- what the search from the back passed stands behind the city that it found
  have order : c.positioned = before.reverse ++ (p, city) :: after.reverse := by
    rw [← List.reverse_reverse c.positioned, split]
    simp
  have member := mem_positioned.mpr there
  have ordered := positioned_ordered c
  rw [order] at member ordered
  rcases List.mem_append.mp member with earlier | here
  · exact Or.inr ((List.pairwise_append.mp ordered).2.2 _ earlier _ List.mem_cons_self)
  · rcases List.mem_cons.mp here with same | later
    · exact Or.inl (congrArg Prod.fst same)
    · have silent := passed (q, other) (List.mem_reverse.mp later)
      simp [listed] at silent

/-! ### Counting -/

theorem relayCount_eq (c : Catalog) : c.relayCount = c.keys.toFinset.card := by
  have same : c.index.keys.toFinset = c.keys.toFinset := by
    ext key
    rw [List.mem_toFinset, List.mem_toFinset, ← KeyMap.isSome_get?, get?_index, isSome_positionOf?]
  have once : c.index.keys.Nodup := c.index.nodup
  rw [← same, List.toFinset_card_of_nodup once, KeyMap.keys, List.length_map]
  rfl

/-- As many keys as entries means that no entry was written over. -/
theorem length_eq_relayCount_iff : c.keys.length = c.relayCount ↔ c.KeysDistinct := by
  rw [relayCount_eq, KeysDistinct, eq_comm]
  exact Multiset.toFinset_card_eq_card_iff_nodup (m := (c.keys : Multiset String))

theorem checked_eq_ok {d : Catalog} : c.checked = .ok d ↔ c.KeysDistinct ∧ c = d := by
  rw [← length_eq_relayCount_iff, checked]
  split <;> simp [*]

/-! ### Documents -/

theorem keys_ofCountries (countries : List Country) :
    (ofCountries countries).keys = countries.flatMap fun country => country.cities.flatMap City.keys := by
  simp only [keys, cities, ofCountries, Country.stamped, List.flatMap_map, List.flatMap_assoc]
  rfl

theorem ofText_eq_ok {text : String} {countries : List Country}
    (read : Json.read? text >>= Document.countries? = some countries) :
    ofText text = .ok c ↔ (ofCountries countries).KeysDistinct ∧ ofCountries countries = c := by
  rw [← checked_eq_ok, ofText, read]
  cases checked : (ofCountries countries).checked <;> simp [checked, Except.mapError]

/-! ### Ratings -/

theorem positioned_mapCities (c : Catalog) (change : City → City) :
    (c.mapCities change).positioned = c.positioned.map fun entry => (entry.1, change entry.2) := by
  simp only [positioned, mapCities, List.zipIdx_map, List.flatMap_map, List.map_flatMap, List.map_map, Prod.map_fst,
    Prod.map_snd]
  rfl

/-- Latencies and grades do not reach the index. -/
theorem index_unrated (c : Catalog) : c.unrated.index = c.index := by
  rw [index, unrated, positioned_mapCities, List.foldl_map]
  rfl

/-- Each city has the code of its country. -/
def Stamped (c : Catalog) : Prop := ∀ country ∈ c.countries, ∀ city ∈ country.cities, city.country = country.code

theorem ofCountries_stamped (countries : List Country) : (ofCountries countries).Stamped := by
  simp [Stamped, ofCountries, Country.stamped]

theorem stamped_unrated : c.unrated.Stamped ↔ c.Stamped := by
  simp [Stamped, unrated, mapCities, City.unrated]

end Catalog

/-- The tree with the index that is kept beside it. -/
structure Directory where
  catalog : Catalog
  index : KeyMap Position

namespace Directory

open Catalog (Stamped)

def ofCountries (countries : List Country) : Directory :=
  ⟨.ofCountries countries, (Catalog.ofCountries countries).index⟩

/-- The relay that the kept index finds. -/
def relay? (d : Directory) (key : String) : Option Relay := do
  let p ← d.index.get? key
  let city ← d.catalog.city? p
  city.relays.find? (·.key == key)

inductive Step : Directory → Directory → Prop where
  /-- Other countries are put in, and the index is built anew. -/
  | replace (d : Directory) (countries : List Country) : Step d (ofCountries countries)
  /-- Latencies and grades are written into the cities, and the index is left alone. -/
  | write {d : Directory} {catalog : Catalog} : catalog.unrated = d.catalog.unrated → Step d { d with catalog }

/-- What can become of the directory of these countries. -/
def Reaches (countries : List Country) (d : Directory) : Prop := Relation.ReflTransGen Step (ofCountries countries) d

/-- The index is that of the tree beside it. -/
structure Exact (d : Directory) : Prop where
  index : d.index = d.catalog.index
  stamped : d.catalog.Stamped

variable {d e : Directory} {countries : List Country}

theorem ofCountries_exact (countries : List Country) : (ofCountries countries).Exact :=
  ⟨rfl, Catalog.ofCountries_stamped countries⟩

theorem Step.exact (step : Step d e) (exact : d.Exact) : e.Exact := by
  cases step with
  | replace countries => exact ofCountries_exact countries
  | @write catalog rates =>
    have kept : d.index = catalog.index := by
      rw [exact.index, ← Catalog.index_unrated, ← rates, Catalog.index_unrated]
    have stamped : catalog.Stamped := by
      rw [← Catalog.stamped_unrated, rates, Catalog.stamped_unrated]
      exact exact.stamped
    exact ⟨kept, stamped⟩

theorem Reaches.exact (reaches : Reaches countries d) : d.Exact := by
  induction reaches with
  | refl => exact ofCountries_exact countries
  | tail _ step ih => exact step.exact ih

theorem Exact.get? (exact : d.Exact) (key : String) : d.index.get? key = d.catalog.positionOf? key := by
  rw [exact.index, Catalog.get?_index]

theorem Exact.relay? (exact : d.Exact) (key : String) : d.relay? key = d.catalog.relay? key := by
  rw [Directory.relay?, exact.get?]
  rfl

end Directory

namespace Monitor

/-! ### The monitor as a writer -/

theorem rerateKey_unrated (m : Monitor) (now : Reading) (key : String) :
    (m.rerateKey now key).catalog.unrated = m.catalog.unrated :=
  congrArg Conduct.catalog (conduct_rerateKey m now key)

theorem hearReply_unrated (m : Monitor) (now : Reading) (k : UInt16) :
    (m.hearReply now k).catalog.unrated = m.catalog.unrated := by
  rcases hearReply_cases m now k with ⟨_, same⟩ | ⟨_, p, _, _, same⟩ <;> rw [same]
  have ticked : ((m.answered now p).tick now).catalog = (m.answered now p).catalog :=
    congrArg Frame.catalog (frame_tick _ now)
  rw [ticked]
  exact rerateKey_unrated _ now p.key

theorem hear_unrated (m : Monitor) (now : Reading) (event : TransportEvent) :
    (m.hear now event).catalog.unrated = m.catalog.unrated :=
  hear_keeps (I := fun n => n.catalog.unrated = m.catalog.unrated) rfl (hearReply_unrated m now) event

theorem clearExpiredCooldowns_unrated (m : Monitor) (now : Reading) :
    (m.clearExpiredCooldowns now).catalog.unrated = m.catalog.unrated :=
  congrArg Conduct.catalog (conduct_clearExpiredCooldowns m now)

theorem ring_unrated (m : Monitor) (s : Surroundings) : (m.ring s).catalog.unrated = m.catalog.unrated := by
  refine ring_keeps (I := fun n => n.catalog.unrated = m.catalog.unrated) ?_ ?_ id
  · exact congrArg (fun frame : Frame => frame.catalog.unrated) (frame_sweepRung m s)
  · exact (clearExpiredCooldowns_unrated _ s.now).trans

/-- All that happens to the monitor writes latencies and grades at most, unless other countries are put in. -/
theorem step_unrated (m : Monitor) (s : Surroundings) {op : Operation}
    (untouched : ∀ countries, op ≠ .replaceCatalog countries) :
    (m.step s op).catalog.unrated = m.catalog.unrated := by
  have framed : ∀ {n : Monitor}, n.frame = m.frame → n.catalog.unrated = m.catalog.unrated :=
    congrArg fun frame : Frame => frame.catalog.unrated
  cases op with
  | activate => exact framed (frame_activate m s.now)
  | start => exact framed (frame_start m s)
  | stop => exact framed (frame_stop m s.now)
  | refresh => exact framed (frame_refresh m s)
  | clear => rfl
  | shutdown => rfl
  | tick => exact framed (frame_tick m s.now)
  | ring => exact ring_unrated m s
  | catalogChanged => exact framed (frame_start m s)
  | clearExpiredCooldowns => exact clearExpiredCooldowns_unrated m s.now
  | hearReply k => exact hearReply_unrated m s.now k
  | hear event => exact hear_unrated m s.now event
  | setEnabled enabled => exact framed (frame_setEnabled m s enabled)
  | setObserver o =>
    exact congrArg Conduct.catalog (conduct_rerateAll { m with observer := some o } s.now)
  | setTunnel tunnel => exact congrArg Catalog.unrated (setTunnel_catalog m s tunnel)
  | setApplication application => exact congrArg Catalog.unrated (setApplication_catalog m s application)
  | recordLatency key ms => exact rerateKey_unrated _ s.now key
  | setCooldown key timeout => exact congrArg Conduct.catalog (conduct_setCooldown m s.now key timeout)
  | setCityCooldown country code timeout =>
    exact congrArg Conduct.catalog (conduct_setCityCooldown m s.now country code timeout)
  | replaceCatalog countries => exact absurd rfl (untouched countries)

theorem step_directory (m : Monitor) (s : Surroundings) (op : Operation) (index : KeyMap Position) :
    ∃ after, Directory.Step ⟨m.catalog, index⟩ ⟨(m.step s op).catalog, after⟩ := by
  by_cases replaced : ∃ countries, op = .replaceCatalog countries
  · obtain ⟨countries, rfl⟩ := replaced
    exact ⟨_, .replace _ countries⟩
  · exact ⟨index, .write (step_unrated m s (not_exists.mp replaced))⟩

theorem run_directory (config : Config) (countries : List Country) (operations : List (Surroundings × Operation)) :
    ∃ index, Directory.Reaches countries
      ⟨((ofConfig config (.ofCountries countries)).run operations).catalog, index⟩ := by
  have start : ∃ index, Directory.Reaches countries ⟨(ofConfig config (.ofCountries countries)).catalog, index⟩ :=
    ⟨_, .refl⟩
  refine run_keeps (I := fun m => ∃ index, Directory.Reaches countries ⟨m.catalog, index⟩) ?_ start fun _ _ => trivial
  rintro m s op - ⟨index, reaches⟩
  obtain ⟨after, step⟩ := step_directory m s op index
  exact ⟨after, reaches.tail step⟩

end Monitor

/-- Whatever is put in or rated, the kept index leads each key of the tree to the last city that lists it, and a
document is taken exactly if it lists no key twice. -/
theorem Directory.index_is_exact :
    (∀ {countries : List Country} {d : Directory}, Reaches countries d →
      (∀ country ∈ d.catalog.countries, ∀ city ∈ country.cities, city.country = country.code) ∧
      (∀ key, (d.index.get? key).isSome ↔ key ∈ d.catalog.keys) ∧
      (∀ key p, d.index.get? key = some p → ∃ city, d.catalog.city? p = some city ∧
        (∃ relay ∈ city.relays, relay.key = key ∧ d.relay? key = some relay) ∧
        ∀ q other, d.catalog.city? q = some other → key ∈ other.keys → q = p ∨ q.Before p) ∧
      (∀ key, key ∉ d.catalog.keys → d.relay? key = none) ∧
      d.index.size = d.catalog.keys.toFinset.card ∧
      d.catalog.relayCount = d.index.size ∧
      ∀ key, d.catalog.positionOf? key = d.index.get? key ∧ d.catalog.relay? key = d.relay? key) ∧
    (∀ config countries operations, ∃ d, Reaches countries d ∧
      d.catalog = ((Monitor.ofConfig config (.ofCountries countries)).run operations).catalog) ∧
    ∀ {text : String} {countries : List Country}, Json.read? text >>= Catalog.Document.countries? = some countries →
      ((∃ c, Catalog.ofText text = .ok c) ↔
        (countries.flatMap fun country => country.cities.flatMap City.keys).Nodup) ∧
      ∀ c, Catalog.ofText text = .ok c → c = .ofCountries countries := by
  refine ⟨?_, ?_, ?_⟩
  · intro countries d reaches
    have exact := reaches.exact
    have counted : d.catalog.relayCount = d.index.size := by rw [exact.index, Catalog.relayCount]
    refine ⟨exact.stamped, ?_, ?_, ?_, ?_, counted, ?_⟩
    · intro key
      rw [exact.get?, Catalog.isSome_positionOf?]
    · intro key p found
      rw [exact.get?] at found
      obtain ⟨city, here, relay, member, same, answer⟩ := Catalog.relay?_of_position found
      refine ⟨city, here, ⟨relay, member, same, (exact.relay? key).trans answer⟩, ?_⟩
      exact fun q other there listed => Catalog.positionOf?_last found there listed
    · intro key unlisted
      have missing : d.index.get? key = none := by
        rw [exact.get?, ← Option.not_isSome_iff_eq_none, Catalog.isSome_positionOf?]
        exact unlisted
      rw [Directory.relay?, missing]
      rfl
    · rw [← counted, Catalog.relayCount_eq]
    · exact fun key => ⟨(exact.get? key).symm, (exact.relay? key).symm⟩
  · intro config countries operations
    obtain ⟨index, reaches⟩ := Monitor.run_directory config countries operations
    exact ⟨_, reaches, rfl⟩
  · intro text countries read
    rw [← Catalog.keys_ofCountries]
    refine ⟨⟨?_, ?_⟩, ?_⟩
    · rintro ⟨c, taken⟩
      exact ((Catalog.ofText_eq_ok read).mp taken).1
    · exact fun distinct => ⟨_, (Catalog.ofText_eq_ok read).mpr ⟨distinct, rfl⟩⟩
    · exact fun c taken => ((Catalog.ofText_eq_ok read).mp taken).2.symm

/-- Two cities list the key "a", one of them under a country that is not its own. -/
def twiceListed : List Country :=
  [⟨"se", "Sweden",
    [{ code := "got", name := "Gothenburg", place := default, relays := [⟨"a", default⟩, ⟨"b", default⟩] },
      { code := "osl", name := "Oslo", country := "no", place := default, relays := [⟨"a", .ofOctets 10 0 0 1⟩] }]⟩]

/-- A city with two relays, of which the second has this key. -/
def pairOf (key : String) : List Country :=
  [⟨"se", "Sweden", [{ code := "got", name := "Gothenburg", place := ⟨0, 0⟩
                       relays := [⟨"a", .ofOctets 10 0 0 1⟩, ⟨key, .ofOctets 10 0 0 2⟩] }]⟩]

/-- The same as a document, where a list of fields stands for a city and for a relay. -/
def pairText (key : String) : String :=
  "\x7b\"countries\":[\x7b\"code\":\"se\",\"name\":\"Sweden\",\"cities\":" ++
  "[[\"got\",\"Gothenburg\",\"\",0,0,[[\"a\",\"10.0.0.1\"],[\"" ++ key ++ "\",\"10.0.0.2\"]]]]\x7d]\x7d"

/-- A key leads to the last city that lists it, but a document that lists it twice is refused. -/
theorem twiceListed_indexed :
    let d : Directory :=
      ⟨(Catalog.ofCountries twiceListed).modifyCity ⟨0, 1⟩ fun city => { city with latency := 7 },
        (Catalog.ofCountries twiceListed).index⟩
    Directory.Reaches [] d ∧ d.index.get? "a" = some ⟨0, 1⟩ ∧ (∃ relay, relay.key = "a" ∧ d.relay? "a" = some relay) ∧
    (∀ country ∈ d.catalog.countries, ∀ city ∈ country.cities, city.country = country.code) ∧
    Json.read? (pairText "b") >>= Catalog.Document.countries? = some (pairOf "b") ∧
    (∃ c, Catalog.ofText (pairText "b") = .ok c) ∧
    Json.read? (pairText "a") >>= Catalog.Document.countries? = some (pairOf "a") ∧
    ¬ ∃ c, Catalog.ofText (pairText "a") = .ok c := by
  intro d
  have rates : d.catalog.unrated = (Catalog.ofCountries twiceListed).unrated :=
    Catalog.unrated_modifyCity _ _ fun _ => rfl
  have reaches : Directory.Reaches [] d :=
    (Relation.ReflTransGen.single (.replace _ twiceListed)).tail (.write (d := .ofCountries twiceListed) rates)
  have found : d.index.get? "a" = some ⟨0, 1⟩ := by decide
  obtain ⟨kept, _, documents⟩ := Directory.index_is_exact
  obtain ⟨stamped, _, places, _⟩ := kept reaches
  obtain ⟨_, _, ⟨relay, _, same, answer⟩, _⟩ := places "a" ⟨0, 1⟩ found
  have distinct : Json.read? (pairText "b") >>= Catalog.Document.countries? = some (pairOf "b") := by decide +kernel
  have repeated : Json.read? (pairText "a") >>= Catalog.Document.countries? = some (pairOf "a") := by decide +kernel
  refine ⟨reaches, found, ⟨relay, same, answer⟩, stamped, distinct, ?_, repeated, ?_⟩
  · exact (documents distinct).1.mpr (by decide)
  · exact fun taken => absurd ((documents repeated).1.mp taken) (by decide)

end RelayQuality
