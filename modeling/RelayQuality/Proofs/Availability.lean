import RelayQuality.Proofs.Course
import RelayQuality.Proofs.Grading
import RelayQuality.Proofs.Places
import RelayQuality.Proofs.Run

/-!
# Availability mirrors suppression

The grade of a city is kept, not computed when it is read, while cooldowns change and run out. `Mirrors` is
what the kept grade says at any later second. A change of cooldowns leaves keys whose cities are still
to be rated, which `Settling` names.
-/

namespace RelayQuality

namespace City

/-- A city all of whose relays are suppressed is unavailable, and an unavailable one has a cooldown for each. -/
structure Mirrors (cooldowns : Cooldowns) (now : Int) (city : City) : Prop where
  suppressed : city.relays ≠ [] → city.IsSuppressed cooldowns now → city.grade = .unavailable
  covered : city.grade = .unavailable → ∀ key ∈ city.keys, (cooldowns.ends.get? key).isSome

variable {city : City} {before after : Cooldowns} {now : Int}

theorem Mirrors.later {second : Int} (order : now ≤ second) (mirrors : city.Mirrors before now) :
    city.Mirrors before second :=
  ⟨fun some suppressed => mirrors.suppressed some (suppressed.earlier order), mirrors.covered⟩

theorem Mirrors.of_same (mirrors : city.Mirrors before now)
    (same : ∀ key ∈ city.keys, after.ends.get? key = before.ends.get? key) : city.Mirrors after now := by
  refine ⟨?_, ?_⟩
  · intro some suppressed
    refine mirrors.suppressed some ?_
    intro key member
    rw [← same key member]
    exact suppressed key member
  · intro unavailable key member
    rw [same key member]
    exact mirrors.covered unavailable key member

end City

namespace Cooldowns

theorem get?_set (c : Cooldowns) {key other : String} (timeout now : Int) (different : other ≠ key) :
    (c.set key timeout now).ends.get? other = c.ends.get? other := by
  unfold set
  split
  · exact (KeyMap.get?_erase _ _ _).trans (if_neg different)
  · exact (KeyMap.get?_insert _ _ _ _).trans (if_neg different)

theorem get?_lift_all {c : Cooldowns} {keys : List String} {key : String} (other : key ∉ keys) :
    (keys.foldl lift c).ends.get? key = c.ends.get? key := by
  induction keys generalizing c with
  | nil => rfl
  | cons first rest ih =>
    obtain ⟨different, others⟩ := not_or.mp (List.mem_cons.not.mp other)
    rw [List.foldl_cons, ih others]
    exact (KeyMap.get?_erase _ _ _).trans (if_neg different)

theorem get?_setEnd_all (c : Cooldowns) (keys : List String) (second : Int) (key : String) :
    (keys.foldl (fun c key => c.setEnd key second) c).ends.get? key =
      if key ∈ keys then some second else c.ends.get? key := by
  induction keys generalizing c with
  | nil => rfl
  | cons first rest ih =>
    rw [List.foldl_cons, ih, setEnd, KeyMap.get?_insert]
    by_cases here : key = first <;> by_cases there : key ∈ rest <;> simp [here, there]

theorem mem_expired {c : Cooldowns} {key : String} {second now : Int} (found : c.ends.get? key = some second)
    (come : second ≤ now) : key ∈ c.expired now := by
  obtain ⟨entry, first, rfl⟩ := Option.map_eq_some_iff.mp found
  obtain rfl : entry.1 = key := by simpa using List.find?_some first
  exact List.mem_map.mpr ⟨entry, List.mem_filter.mpr ⟨List.mem_of_find?_eq_some first, decide_eq_true come⟩, rfl⟩

theorem get?_dropExpired {c : Cooldowns} {key : String} {now : Int} (lasts : key ∉ c.expired now) :
    (c.dropExpired now).ends.get? key = c.ends.get? key := by
  rw [dropExpired, KeyMap.get?_filter]
  cases found : c.ends.get? key with
  | none => rfl
  | some second =>
    have after : now < second := Int.not_le.mp fun come => lasts (mem_expired found come)
    exact Option.filter_some_pos (decide_eq_true after)

end Cooldowns

namespace Monitor

/-- Each city mirrors its cooldowns, but for those of keys that are still to be rated. -/
structure Settling (now : Int) (pending : List String) (m : Monitor) : Prop where
  onePlace : m.catalog.OnePlace
  settled : ∀ {p city}, m.catalog.city? p = some city →
    (∃ key ∈ pending, key ∈ city.keys) ∨ city.Mirrors m.cooldowns now

variable {m n : Monitor} {now : Reading} {pending : List String}

theorem Settling.of_same {time : Int} (settling : Settling time pending m) (catalog : n.catalog = m.catalog)
    (cooldowns : n.cooldowns = m.cooldowns) : Settling time pending n := by
  obtain ⟨onePlace, settled⟩ := settling
  rw [← catalog] at onePlace settled
  rw [← cooldowns] at settled
  exact ⟨onePlace, settled⟩

theorem Settling.later {first second : Int} (order : first ≤ second) (settling : Settling first pending m) :
    Settling second pending m :=
  ⟨settling.onePlace, fun here => (settling.settled here).imp_right (City.Mirrors.later order)⟩

/-- Cooldowns may change for the keys that are still to be rated. -/
theorem Settling.change {time : Int} (settling : Settling time [] m) {cooldowns : Cooldowns}
    (others : ∀ key, key ∉ pending → cooldowns.ends.get? key = m.cooldowns.ends.get? key) :
    Settling time pending { m with cooldowns } := by
  refine ⟨settling.onePlace, ?_⟩
  intro p city here
  by_cases touched : ∃ key ∈ pending, key ∈ city.keys
  · exact Or.inl touched
  · have mirrors : city.Mirrors m.cooldowns time := by simpa using settling.settled here
    refine Or.inr (mirrors.of_same ?_)
    intro key member
    exact others key fun listed => touched ⟨key, listed, member⟩

/-! ### Ratings -/

theorem rated_mirrors (m : Monitor) {time : Int} (positive : 0 ≤ time) (city : City) :
    (m.rated time city).Mirrors m.cooldowns time := by
  have rated : (m.rated time city).grade = .unavailable ↔ city.IsSuppressed m.cooldowns time :=
    Rating.grade_eq_unavailable _ _ positive
  refine ⟨fun _ suppressed => rated.mpr suppressed, ?_⟩
  intro unavailable key member
  obtain ⟨second, found, _⟩ := rated.mp unavailable key member
  exact Option.isSome_iff_exists.mpr ⟨second, found⟩

/-- A city that changes as a whole mirrors its cooldowns if the changed city does. -/
theorem modifyCity_settling {time : Int} {p : Position} {change : City → City} {cooldowns : Cooldowns}
    (onePlace : m.catalog.OnePlace) (keys : ∀ city, (change city).keys = city.keys)
    (changed : ∀ {city}, m.catalog.city? p = some city → (change city).Mirrors cooldowns time)
    (others : ∀ {q city}, q ≠ p → m.catalog.city? q = some city →
      (∃ key ∈ pending, key ∈ city.keys) ∨ city.Mirrors cooldowns time) :
    Settling time pending { m with cooldowns, catalog := m.catalog.modifyCity p change } := by
  refine ⟨onePlace.modifyCity keys, ?_⟩
  intro q city here
  rw [Catalog.city?_modifyCity] at here
  split at here
  · obtain ⟨old, found, rfl⟩ := Option.map_eq_some_iff.mp here
    exact Or.inr (changed found)
  · exact others ‹_› here

theorem rerateCity_settling (positive : 0 ≤ now.epoch) {p : Position} (onePlace : m.catalog.OnePlace)
    (others : ∀ {q city}, q ≠ p → m.catalog.city? q = some city →
      (∃ key ∈ pending, key ∈ city.keys) ∨ city.Mirrors m.cooldowns now.epoch) :
    Settling now.epoch pending (m.rerateCity now p) := by
  have rated : Settling now.epoch pending { m with catalog := m.catalog.modifyCity p (m.rated now.epoch) } :=
    modifyCity_settling onePlace (fun _ => rfl) (fun _ => rated_mirrors m positive _) others
  rw [rerateCity_eq]
  exact rated.of_same rfl rfl

theorem rerateKey_settling (positive : 0 ≤ now.epoch) {key : String}
    (settling : Settling now.epoch (key :: pending) m) : Settling now.epoch pending (m.rerateKey now key) := by
  obtain ⟨onePlace, settled⟩ := settling
  unfold rerateKey
  split
  next p found =>
    obtain ⟨home, there, lists⟩ := Catalog.positionOf?_some found
    refine rerateCity_settling positive onePlace ?_
    -- a city elsewhere does not list the key, so it waits for another key or is settled
    intro q city elsewhere here
    rcases settled here with ⟨pend, listed, member⟩ | mirrors
    · rcases List.mem_cons.mp listed with rfl | later
      · exact absurd (onePlace here there member lists) elsewhere
      · exact Or.inl ⟨pend, later, member⟩
    · exact Or.inr mirrors
  next missing =>
    refine ⟨onePlace, ?_⟩
    intro p city here
    rcases settled here with ⟨pend, listed, member⟩ | mirrors
    · rcases List.mem_cons.mp listed with rfl | later
      · exact absurd member (Catalog.positionOf?_none missing here)
      · exact Or.inl ⟨pend, later, member⟩
    · exact Or.inr mirrors

theorem rerateKeys_settling (positive : 0 ≤ now.epoch) (settling : Settling now.epoch pending m) :
    Settling now.epoch [] (pending.foldl (fun m key => m.rerateKey now key) m) := by
  induction pending generalizing m with
  | nil => exact settling
  | cons key rest ih => exact ih (rerateKey_settling positive settling)

theorem recordLatency_settling (positive : 0 ≤ now.epoch) (key : String) (ms : Nat)
    (settling : Settling now.epoch [] m) : Settling now.epoch [] (m.recordLatency now key ms) := by
  refine rerateKey_settling positive ⟨settling.onePlace, ?_⟩
  intro p city here
  exact Or.inr (by simpa using settling.settled here)

theorem setObserver_settling (positive : 0 ≤ now.epoch) (o : Observer) (settling : Settling now.epoch [] m) :
    Settling now.epoch [] (m.setObserver now o) := by
  unfold setObserver rerateAll
  rw [markChanged_eq]
  refine ⟨settling.onePlace.mapCities fun _ => rfl, ?_⟩
  intro p city here
  obtain ⟨old, _, rfl⟩ := Option.map_eq_some_iff.mp ((Catalog.city?_mapCities _ _ _).symm.trans here)
  exact Or.inr (rated_mirrors { m with observer := some o } positive old)

/-! ### Cooldowns -/

theorem setCooldown_settling (positive : 0 ≤ now.epoch) (key : String) (timeout : Int)
    (settling : Settling now.epoch [] m) : Settling now.epoch [] (m.setCooldown now key timeout) := by
  have changed : Settling now.epoch [key] { m with cooldowns := m.cooldowns.set key timeout now.epoch } :=
    settling.change fun _ other => Cooldowns.get?_set _ _ _ (List.mem_singleton.not.mp other)
  exact (rerateKey_settling positive changed).of_same rfl rfl

theorem clearExpiredCooldowns_settling (positive : 0 ≤ now.epoch) (settling : Settling now.epoch [] m) :
    Settling now.epoch [] (m.clearExpiredCooldowns now) := by
  have dropped : Settling now.epoch (m.cooldowns.expired now.epoch)
      { m with cooldowns := m.cooldowns.dropExpired now.epoch } :=
    settling.change fun _ lasts => Cooldowns.get?_dropExpired lasts
  exact (rerateKeys_settling positive dropped).of_same rfl rfl

/-- No relay of another city is touched. -/
theorem Settling.elsewhere {time : Int} (settling : Settling time [] m) {p : Position} {city : City}
    (here : m.catalog.city? p = some city) {cooldowns : Cooldowns}
    (others : ∀ key, key ∉ city.keys → cooldowns.ends.get? key = m.cooldowns.ends.get? key)
    {q : Position} {other : City} (different : q ≠ p) (there : m.catalog.city? q = some other) :
    (∃ key ∈ ([] : List String), key ∈ other.keys) ∨ other.Mirrors cooldowns time := by
  have mirrors : other.Mirrors m.cooldowns time := by simpa using settling.settled there
  refine Or.inr (mirrors.of_same ?_)
  intro key member
  exact others key fun listed => different (settling.onePlace there here member listed)

theorem liftCity_settling (positive : 0 ≤ now.epoch) {p : Position} {city : City}
    (here : m.catalog.city? p = some city) (settling : Settling now.epoch [] m) :
    Settling now.epoch [] (m.liftCity now p city) :=
  rerateCity_settling positive settling.onePlace
    (settling.elsewhere here fun _ other => Cooldowns.get?_lift_all other)

theorem suppressCity_settling (timeout : Int) {p : Position} {city : City}
    (here : m.catalog.city? p = some city) (settling : Settling now.epoch [] m) :
    Settling now.epoch [] (m.suppressCity now p city timeout) := by
  have changed : Settling now.epoch [] { m with
      cooldowns := city.keys.foldl (fun c key => c.setEnd key (Epoch.add now.epoch timeout)) m.cooldowns
      catalog := m.catalog.modifyCity p fun city => { city with grade := .unavailable } } := by
    refine modifyCity_settling settling.onePlace (fun _ => rfl) ?_ (settling.elsewhere here ?_)
    · intro same found
      obtain rfl : city = same := Option.some.inj (here.symm.trans found)
      refine ⟨fun _ _ => rfl, ?_⟩
      intro _ key (member : key ∈ city.keys)
      rw [Cooldowns.get?_setEnd_all, if_pos member]
      rfl
    · intro key other
      rw [Cooldowns.get?_setEnd_all, if_neg other]
  unfold suppressCity
  rw [markChanged_eq]
  exact changed.of_same rfl rfl

theorem city?_of_cityWithCode? {country code : String} {p : Position} {city : City}
    (named : m.cityWithCode? country code = some (p, city)) : m.catalog.city? p = some city := by
  simp only [cityWithCode?, Option.bind_eq_bind, Option.bind_eq_some_iff, Option.some.injEq, Prod.mk.injEq] at named
  obtain ⟨_, _, _, found, rfl, rfl⟩ := named
  exact found

theorem setCityCooldown_settling (positive : 0 ≤ now.epoch) (country code : String) (timeout : Int)
    (settling : Settling now.epoch [] m) : Settling now.epoch [] (m.setCityCooldown now country code timeout).2 := by
  unfold setCityCooldown
  split
  next => exact settling
  next p city named =>
    have here := city?_of_cityWithCode? named
    dsimp only
    split
    · exact (liftCity_settling positive here settling).of_same rfl rfl
    · exact (suppressCity_settling timeout here settling).of_same rfl rfl

/-! ### Sweeps -/

theorem Settling.of_frame {time : Int} (settling : Settling time pending m) (same : n.frame = m.frame) :
    Settling time pending n :=
  settling.of_same (congrArg Frame.catalog same) (congrArg Frame.cooldowns same)

theorem hearReply_settling (positive : 0 ≤ now.epoch) (sequence : UInt16) (settling : Settling now.epoch [] m) :
    Settling now.epoch [] (m.hearReply now sequence) := by
  rcases hearReply_cases m now sequence with ⟨_, same⟩ | ⟨_, p, _, _, same⟩ <;> rw [same]
  · exact settling
  · have taken : Settling now.epoch [] { m with sweep := m.sweep.answered p.sequence } := settling.of_same rfl rfl
    exact (recordLatency_settling positive p.key _ taken).of_frame (frame_tick _ now)

theorem hear_settling (positive : 0 ≤ now.epoch) (event : TransportEvent) (settling : Settling now.epoch [] m) :
    Settling now.epoch [] (m.hear now event) :=
  hear_keeps settling (fun sequence => hearReply_settling positive sequence settling) event

theorem ring_settling {s : Surroundings} (positive : 0 ≤ s.now.epoch) (settling : Settling s.now.epoch [] m) :
    Settling s.now.epoch [] (m.ring s) := by
  have swept : Settling s.now.epoch [] (m.sweepRung s) := settling.of_frame (frame_sweepRung m s)
  exact ring_keeps swept (clearExpiredCooldowns_settling positive) fun cooled => cooled.of_same rfl rfl

theorem setTunnel_settling {time : Int} (s : Surroundings) (tunnel : Tunnel) (settling : Settling time [] m) :
    Settling time [] (m.setTunnel s tunnel) := by
  rcases setTunnel_cases m s tunnel with ⟨_, same⟩ | ⟨_, _, same⟩ | ⟨_, _, same⟩ <;> rw [same]
  · refine Settling.of_frame ?_ (frame_stop _ _)
    exact settling.of_same rfl rfl
  · refine Settling.of_frame ?_ (frame_start _ s)
    exact settling.of_same rfl rfl
  · exact settling.of_same rfl rfl

theorem setApplication_settling {time : Int} (s : Surroundings) (application : Application)
    (settling : Settling time [] m) : Settling time [] (m.setApplication s application) := by
  rcases setApplication_cases m s application with
    ⟨_, _, same⟩ | ⟨_, _, same⟩ | ⟨_, _, _, same⟩ | ⟨_, _, same⟩ <;> rw [same]
  · refine Settling.of_frame ?_ (frame_stop _ _)
    exact settling.of_same rfl rfl
  · exact settling.of_same rfl rfl
  · refine Settling.of_frame ?_ (frame_refresh _ s)
    exact settling.of_same rfl rfl
  · exact settling.of_same rfl rfl

theorem step_settling {s : Surroundings} {op : Operation} (positive : 0 ≤ s.now.epoch)
    (untouched : ∀ countries, op ≠ .replaceCatalog countries) (settling : Settling s.now.epoch [] m) :
    Settling s.now.epoch [] (m.step s op) := by
  cases op with
  | activate => exact settling.of_frame (frame_activate m s.now)
  | start => exact settling.of_frame (frame_start m s)
  | stop => exact settling.of_frame (frame_stop m s.now)
  | refresh => exact settling.of_frame (frame_refresh m s)
  | clear => exact settling.of_same rfl rfl
  | shutdown => exact settling.of_same rfl rfl
  | tick => exact settling.of_frame (frame_tick m s.now)
  | ring => exact ring_settling positive settling
  | catalogChanged => exact settling.of_frame (frame_start m s)
  | clearExpiredCooldowns => exact clearExpiredCooldowns_settling positive settling
  | hearReply sequence => exact hearReply_settling positive sequence settling
  | hear event => exact hear_settling positive event settling
  | setEnabled enabled => exact settling.of_frame (frame_setEnabled m s enabled)
  | setObserver o => exact setObserver_settling positive o settling
  | setTunnel tunnel => exact setTunnel_settling s tunnel settling
  | setApplication application => exact setApplication_settling s application settling
  | recordLatency key ms => exact recordLatency_settling positive key ms settling
  | setCooldown key timeout => exact setCooldown_settling positive key timeout settling
  | setCityCooldown country code timeout => exact setCityCooldown_settling positive country code timeout settling
  | replaceCatalog countries => exact absurd rfl (untouched countries)

theorem ofConfig_settling (config : Config) {catalog : Catalog} (distinct : catalog.KeysDistinct)
    (fresh : ∀ city ∈ catalog.cities, city.grade = .noData) (time : Int) :
    Settling time [] (ofConfig config catalog) := by
  refine ⟨distinct.onePlace, ?_⟩
  intro p city here
  have unrated : city.grade = .noData := fresh city (Catalog.mem_cities.mpr ⟨p, here⟩)
  refine Or.inr ⟨?_, fun unavailable => nomatch unrated.symm.trans unavailable⟩
  intro some suppressed
  obtain ⟨relay, listed⟩ := List.exists_mem_of_ne_nil _ some
  obtain ⟨_, found, _⟩ := suppressed relay.key (List.mem_map_of_mem listed)
  exact nomatch found

/-- A city whose relays all have a cooldown still to end is kept as unavailable, and a city kept as unavailable has a
cooldown listed for each of its relays. -/
theorem availability_mirrors_suppression (config : Config) {catalog : Catalog}
    {operations : List (Surroundings × Operation)} {now : Int} (distinct : catalog.KeysDistinct)
    (fresh : ∀ city ∈ catalog.cities, city.grade = .noData) (forward : Forward Reading.epoch operations)
    (seconds : ∀ entry ∈ operations, 0 ≤ entry.1.now.epoch)
    (untouched : ∀ entry ∈ operations, ∀ countries, entry.2 ≠ .replaceCatalog countries)
    (past : ∀ entry ∈ operations, entry.1.now.epoch ≤ now) :
    let m := (ofConfig config catalog).run operations
    ∀ city ∈ m.catalog.cities, city.relays ≠ [] →
      ((∀ key ∈ city.keys, ∃ second, m.cooldowns.ends.get? key = some second ∧ now < second) →
        city.grade = .unavailable) ∧
      (city.grade = .unavailable → ∀ key ∈ city.keys, ∃ second, m.cooldowns.ends.get? key = some second) := by
  intro m city listed some
  have settling : Settling now [] m :=
    run_keeps_later (I := fun time => Settling time []) Settling.later
      (fun allowed => step_settling allowed.1 allowed.2) (ofConfig_settling config distinct fresh) forward
      (fun entry member => And.intro (seconds entry member) (untouched entry member)) past
  obtain ⟨p, here⟩ := Catalog.mem_cities.mp listed
  have mirrors : city.Mirrors m.cooldowns now := by simpa using settling.settled here
  refine ⟨mirrors.suppressed some, ?_⟩
  intro unavailable key member
  exact Option.isSome_iff_exists.mp (mirrors.covered unavailable key member)

def twinRelays : Catalog :=
  ⟨[⟨"se", "Sweden", [{ code := "got", name := "Gothenburg", country := "se", place := default
                        relays := [⟨"a", default⟩, ⟨"b", default⟩] }]⟩]⟩

/-- The same city and another one, of one relay. -/
def twinsAndOne : Catalog :=
  let one : City := { code := "osl", name := "Oslo", country := "no", place := default, relays := [⟨"c", default⟩] }
  ⟨twinRelays.countries ++ [⟨"no", "Norway", [one]⟩]⟩

/-- Both cities are suppressed. One relay of the first is lifted and suppressed once more, the one of the second is
lifted. -/
def overlappingCooldowns : List (Surroundings × Operation) :=
  [(⟨⟨0, 100⟩, true⟩, .setCityCooldown "se" "got" 60), (⟨⟨1000, 101⟩, true⟩, .recordLatency "a" 40),
    (⟨⟨2000, 102⟩, true⟩, .setCooldown "c" 60), (⟨⟨20000, 120⟩, true⟩, .setCooldown "a" 0),
    (⟨⟨21000, 121⟩, true⟩, .setCooldown "c" 0), (⟨⟨30000, 130⟩, true⟩, .setCooldown "a" 100)]

theorem overlappingCooldowns_mirrored :
    let m := (ofConfig {} twinsAndOne).run overlappingCooldowns
    twinsAndOne.KeysDistinct ∧ (∀ city ∈ twinsAndOne.cities, city.grade = .noData) ∧
    Forward Reading.epoch overlappingCooldowns ∧ (∀ entry ∈ overlappingCooldowns, 0 ≤ entry.1.now.epoch) ∧
    (∀ entry ∈ overlappingCooldowns, ∀ countries, entry.2 ≠ .replaceCatalog countries) ∧
    (∀ entry ∈ overlappingCooldowns, entry.1.now.epoch ≤ 140) ∧
    ((ofConfig {} twinsAndOne).run (overlappingCooldowns.take 3)).catalog.cities.map City.grade =
      [.unavailable, .unavailable] ∧
    m.catalog.cities.map City.keys = [["a", "b"], ["c"]] ∧
    (∀ city ∈ m.catalog.cities, city.keys = ["a", "b"] → city.grade = .unavailable) ∧
    ∀ city ∈ m.catalog.cities, city.keys = ["c"] → city.grade ≠ .unavailable := by
  intro m
  have distinct : twinsAndOne.KeysDistinct := by
    unfold Catalog.KeysDistinct
    decide
  have fresh : ∀ city ∈ twinsAndOne.cities, city.grade = .noData := by simp [twinsAndOne, twinRelays, Catalog.cities]
  have forward : Forward Reading.epoch overlappingCooldowns := by simp [Forward, overlappingCooldowns]
  have seconds : ∀ entry ∈ overlappingCooldowns, 0 ≤ entry.1.now.epoch := by simp [overlappingCooldowns]
  have untouched : ∀ entry ∈ overlappingCooldowns, ∀ countries, entry.2 ≠ .replaceCatalog countries := by
    simp [overlappingCooldowns]
  have past : ∀ entry ∈ overlappingCooldowns, entry.1.now.epoch ≤ 140 := by simp [overlappingCooldowns]
  have some {city : City} {key : String} {keys : List String} (members : city.keys = key :: keys) : city.relays ≠ [] :=
    fun none => by simp [City.keys, none] at members
  have mirrors := availability_mirrors_suppression {} distinct fresh forward seconds untouched past
  refine ⟨distinct, fresh, forward, seconds, untouched, past, by decide, rfl, ?_, ?_⟩
  · intro city listed members
    refine (mirrors city listed (some members)).1 ?_
    intro key member
    rw [members] at member
    rcases List.mem_pair.mp member with rfl | rfl
    · exact ⟨230, rfl, by decide⟩
    · exact ⟨160, rfl, by decide⟩
  · intro city listed members unavailable
    have member : "c" ∈ city.keys := members ▸ List.mem_singleton_self _
    obtain ⟨second, found⟩ := (mirrors city listed (some members)).2 unavailable "c" member
    have lifted : m.cooldowns.ends.get? "c" = none := rfl
    rw [lifted] at found
    cases found

end Monitor

end RelayQuality
