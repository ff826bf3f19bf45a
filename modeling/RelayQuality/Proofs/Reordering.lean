import RelayQuality.Proofs.CooldownAlarm
import RelayQuality.Proofs.CityCooldown
import RelayQuality.Proofs.Indexing
import RelayQuality.Proofs.Totals

/-!
# Cooldowns that end together

Cooldowns that have ended are removed and their cities rated in the order in which the table lists them, and that order
is arbitrary. Ratings write only what no rating reads, so two of them commute (`rerateKey_comm`), and nothing but the
order of the table itself is left of it in the end.
-/

namespace RelayQuality

namespace KeyMap

variable {α : Type} {m n : KeyMap α}

theorem get?_eq_some {key : String} {value : α} : m.get? key = some value ↔ (key, value) ∈ m.entries := by
  constructor
  · intro found
    obtain ⟨entry, first, rfl⟩ := Option.map_eq_some_iff.mp found
    obtain rfl : entry.1 = key := by simpa using List.find?_some first
    exact List.mem_of_find?_eq_some first
  · exact fun member => get?_of_mem member

theorem get?_of_perm (perm : m.entries.Perm n.entries) (key : String) : m.get? key = n.get? key := by
  refine Option.ext fun value => ?_
  rw [get?_eq_some, get?_eq_some, perm.mem_iff]

end KeyMap

namespace Cooldowns

variable {c d : Cooldowns} {now : Int} {key : String}

/-- Two tables with the same entries, listed in any order. -/
def SameEntries (c d : Cooldowns) : Prop := c.ends.entries.Perm d.ends.entries

theorem SameEntries.expired (same : c.SameEntries d) (now : Int) : (c.expired now).Perm (d.expired now) :=
  (List.Perm.filter _ same).map _

theorem SameEntries.dropExpired (same : c.SameEntries d) (now : Int) :
    (c.dropExpired now).SameEntries (d.dropExpired now) :=
  List.Perm.filter _ same

theorem SameEntries.isSuppressed (same : c.SameEntries d) (key : String) (now : Int) :
    c.isSuppressed key now = d.isSuppressed key now := by
  rw [Cooldowns.isSuppressed, Cooldowns.isSuppressed, endOf, endOf, KeyMap.get?_of_perm same]

theorem SameEntries.nextEnd? (same : c.SameEntries d) : c.nextEnd? = d.nextEnd? := by
  have values : c.ends.values.Perm d.ends.values := same.map _
  refine Option.ext fun second => ?_
  rw [Cooldowns.nextEnd?, Cooldowns.nextEnd?, List.min?_eq_some_iff, List.min?_eq_some_iff]
  simp only [values.mem_iff]

theorem mem_expired_iff : key ∈ c.expired now ↔ ∃ second, c.ends.get? key = some second ∧ second ≤ now := by
  constructor
  · intro listed
    obtain ⟨⟨_, second⟩, kept, rfl⟩ := List.mem_map.mp listed
    obtain ⟨member, come⟩ := List.mem_filter.mp kept
    exact ⟨second, KeyMap.get?_eq_some.mpr member, of_decide_eq_true come⟩
  · rintro ⟨second, found, come⟩
    exact mem_expired found come

theorem get?_dropExpired_eq (c : Cooldowns) (now : Int) (key : String) :
    (c.dropExpired now).ends.get? key = (c.ends.get? key).filter (now < ·) :=
  KeyMap.get?_filter _ _ _

theorem foldl_lift_entries (c : Cooldowns) (keys : List String) :
    (keys.foldl lift c).ends.entries = c.ends.entries.filter fun entry => !keys.contains entry.1 := by
  induction keys generalizing c with
  | nil => simp
  | cons key keys ih =>
    have first : (c.lift key).ends.entries = c.ends.entries.filter fun entry => entry.1 != key := rfl
    rw [List.foldl_cons, ih, first, List.filter_filter]
    congr 1
    funext entry
    by_cases here : entry.1 = key <;> simp [here, bne]

/-- Whatever the order in which they are removed one by one, the others stay as they are. -/
theorem foldl_lift_expired {keys : List String} (perm : keys.Perm (c.expired now)) :
    keys.foldl lift c = c.dropExpired now := by
  refine congrArg Cooldowns.mk (KeyMap.ext ?_)
  rw [foldl_lift_entries]
  refine List.filter_congr fun entry member => ?_
  have found := KeyMap.get?_of_mem member
  have ended : entry.1 ∈ keys ↔ entry.2 ≤ now := by
    rw [perm.mem_iff, mem_expired_iff, found]
    simp
  by_cases come : entry.2 ≤ now
  · simp [ended.mpr come, Int.not_lt.mpr come]
  · simp [mt ended.mp come, Int.not_le.mp come]

theorem expired_dropExpired (c : Cooldowns) (now : Int) : (c.dropExpired now).expired now = [] := by
  refine List.eq_nil_iff_forall_not_mem.mpr fun key listed => ?_
  obtain ⟨second, found, come⟩ := mem_expired_iff.mp listed
  rw [get?_dropExpired_eq] at found
  have later : now < second := of_decide_eq_true (Option.filter_eq_some_iff.mp found).2
  omega

theorem dropExpired_dropExpired (c : Cooldowns) (now : Int) :
    (c.dropExpired now).dropExpired now = c.dropExpired now := by
  have none : ([] : List String).Perm ((c.dropExpired now).expired now) := by rw [expired_dropExpired]
  exact (foldl_lift_expired none).symm

end Cooldowns

namespace Catalog

theorem modifyCity_comm (c : Catalog) (p q : Position) (change : City → City) :
    (c.modifyCity p change).modifyCity q change = (c.modifyCity q change).modifyCity p change := by
  refine congrArg Catalog.mk ?_
  by_cases country : p.country = q.country
  · simp only [modifyCity, country, List.modify_modify_eq, Function.comp_def, modify_comm]
  · exact List.modify_modify_ne _ _ _ country

theorem positionOf?_of_unrated {c d : Catalog} (same : c.unrated = d.unrated) (key : String) :
    c.positionOf? key = d.positionOf? key := by
  rw [← get?_index, ← get?_index, ← index_unrated, same, index_unrated]

end Catalog

namespace Monitor

variable {m : Monitor} {now : Reading} {cooldowns : Cooldowns}

/-! ### Ratings commute -/

theorem rerateCity_comm (m : Monitor) (now : Reading) (p q : Position) :
    (m.rerateCity now p).rerateCity now q = (m.rerateCity now q).rerateCity now p := by
  have twice : ∀ p q, (m.rerateCity now p).rerateCity now q = { m with
      catalog := (m.catalog.modifyCity p (m.rated now.epoch)).modifyCity q (m.rated now.epoch)
      alarms.progress := some (m.alarms.progress.getD (Millis.add now.millis m.config.progressDelay.millis)) } := by
    intro p q
    rw [rerateCity_eq (m.rerateCity now p), rerateCity_eq m]
    rfl
  rw [twice p q, twice q p, Catalog.modifyCity_comm]

theorem rerateKey_positionOf? (m : Monitor) (now : Reading) (key other : String) :
    (m.rerateKey now key).catalog.positionOf? other = m.catalog.positionOf? other :=
  Catalog.positionOf?_of_unrated (rerateKey_unrated m now key) other

/-- A rating finds the same city before and after another one, and writes the same there. -/
theorem rerateKey_comm (m : Monitor) (now : Reading) (a b : String) :
    (m.rerateKey now a).rerateKey now b = (m.rerateKey now b).rerateKey now a := by
  have second : ∀ a b, (m.rerateKey now a).rerateKey now b =
      ((m.catalog.positionOf? b).elim (m.rerateKey now a) fun q => (m.rerateKey now a).rerateCity now q) := by
    intro a b
    rw [rerateKey, rerateKey_positionOf?]
    cases m.catalog.positionOf? b <;> rfl
  rw [second a b, second b a, rerateKey, rerateKey]
  cases m.catalog.positionOf? a with
  | none => cases m.catalog.positionOf? b <;> rfl
  | some p =>
    cases m.catalog.positionOf? b with
    | none => rfl
    | some q => exact rerateCity_comm m now p q

def rerateKeys (m : Monitor) (now : Reading) (keys : List String) : Monitor :=
  keys.foldl (fun m key => m.rerateKey now key) m

theorem rerateKeys_perm {keys others : List String} (perm : keys.Perm others) (m : Monitor) (now : Reading) :
    m.rerateKeys now keys = m.rerateKeys now others :=
  perm.foldl_eq' (fun a _ b _ m => rerateKey_comm m now a b) m

/-! ### The order of the table -/

theorem rated_of_same (same : cooldowns.SameEntries m.cooldowns) (now : Int) :
    rated { m with cooldowns } now = m.rated now := by
  funext city
  have active : Rating.activeKeys city.keys cooldowns now = Rating.activeKeys city.keys m.cooldowns now := by
    simp only [Rating.activeKeys, same.isSuppressed]
  have base : m.rating.base city m.origin cooldowns now = m.rating.base city m.origin m.cooldowns now := by
    simp only [Rating.base, active]
  have grade : m.rating.grade city m.origin m.samples cooldowns now =
      m.rating.grade city m.origin m.samples m.cooldowns now := by
    rw [Rating.grade, Rating.grade, base]
  exact congrArg (fun grade => { city with latency := m.samples.meanOf city.keys, grade }) grade

theorem rerateKey_of_same (same : cooldowns.SameEntries m.cooldowns) (now : Reading) (key : String) :
    rerateKey { m with cooldowns } now key = { m.rerateKey now key with cooldowns } := by
  unfold rerateKey
  cases m.catalog.positionOf? key with
  | none => rfl
  | some p =>
    show rerateCity { m with cooldowns } now p = { m.rerateCity now p with cooldowns }
    rw [rerateCity_eq, rerateCity_eq, rated_of_same same]

theorem rerateKeys_of_same (same : cooldowns.SameEntries m.cooldowns) (now : Reading) (keys : List String) :
    rerateKeys { m with cooldowns } now keys = { m.rerateKeys now keys with cooldowns } := by
  induction keys generalizing m with
  | nil => rfl
  | cons key keys ih =>
    have kept : (m.rerateKey now key).cooldowns = m.cooldowns := congrArg Prod.fst (cooling_rerateKey m now key)
    have first := rerateKey_of_same same now key
    show rerateKeys (rerateKey { m with cooldowns } now key) now keys = _
    rw [first]
    exact ih (kept ▸ same)

/-! ### All together -/

/-- Remove the cooldowns of these relays one by one, then rate their cities one by one, both in this order. -/
def clearInOrder (m : Monitor) (now : Reading) (keys : List String) : Monitor :=
  (rerateKeys { m with cooldowns := keys.foldl Cooldowns.lift m.cooldowns } now keys).armCooldown now

theorem clearExpiredCooldowns_eq (m : Monitor) (now : Reading) :
    m.clearExpiredCooldowns now =
      (rerateKeys { m with cooldowns := m.cooldowns.dropExpired now.epoch } now
        (m.cooldowns.expired now.epoch)).armCooldown now := rfl

theorem clearInOrder_eq {keys : List String} (perm : keys.Perm (m.cooldowns.expired now.epoch)) :
    m.clearInOrder now keys = m.clearExpiredCooldowns now := by
  rw [clearExpiredCooldowns_eq, clearInOrder, Cooldowns.foldl_lift_expired perm, rerateKeys_perm perm]

theorem clearExpiredCooldowns_of_same (same : cooldowns.SameEntries m.cooldowns) (now : Reading) :
    clearExpiredCooldowns { m with cooldowns } now =
      { m.clearExpiredCooldowns now with cooldowns := cooldowns.dropExpired now.epoch } := by
  have dropped := same.dropExpired now.epoch
  let lifted := { m with cooldowns := m.cooldowns.dropExpired now.epoch }
  have rated : rerateKeys { m with cooldowns := cooldowns.dropExpired now.epoch } now (cooldowns.expired now.epoch) =
      { rerateKeys lifted now (m.cooldowns.expired now.epoch) with cooldowns := cooldowns.dropExpired now.epoch } := by
    rw [rerateKeys_perm (same.expired now.epoch)]
    exact rerateKeys_of_same (m := lifted) dropped now _
  have kept : (rerateKeys lifted now (m.cooldowns.expired now.epoch)).cooldowns = m.cooldowns.dropExpired now.epoch :=
    clearExpiredCooldowns_cooldowns m now
  rw [clearExpiredCooldowns_eq, clearExpiredCooldowns_eq, rated, armCooldown, armCooldown, kept, dropped.nextEnd?]

/-- Nothing is left to remove, and the alarm is that of the same table. -/
theorem clearExpiredCooldowns_again (m : Monitor) (now : Reading) :
    (m.clearExpiredCooldowns now).clearExpiredCooldowns now = m.clearExpiredCooldowns now := by
  have table := clearExpiredCooldowns_cooldowns m now
  rw [clearExpiredCooldowns_eq (m.clearExpiredCooldowns now), table, Cooldowns.dropExpired_dropExpired,
    Cooldowns.expired_dropExpired, ← table]
  show (m.clearExpiredCooldowns now).armCooldown now = m.clearExpiredCooldowns now
  rw [clearExpiredCooldowns_eq]
  rfl

/-- In whatever order the ended cooldowns are removed and their cities rated, the monitor is the same in the end. -/
theorem expiry_order_is_immaterial (m : Monitor) (now : Reading) :
    (m.clearExpiredCooldowns now).cooldowns = m.cooldowns.dropExpired now.epoch ∧
    (∀ key, (m.cooldowns.dropExpired now.epoch).ends.get? key =
      (m.cooldowns.ends.get? key).filter (now.epoch < ·)) ∧
    (∀ key, key ∈ m.cooldowns.expired now.epoch ↔
      ∃ second, m.cooldowns.ends.get? key = some second ∧ second ≤ now.epoch) ∧
    (m.cooldowns.expired now.epoch).Nodup ∧
    (∀ keys, keys.Perm (m.cooldowns.expired now.epoch) → m.clearInOrder now keys = m.clearExpiredCooldowns now) ∧
    (∀ cooldowns, cooldowns.SameEntries m.cooldowns →
      (cooldowns.dropExpired now.epoch).SameEntries (m.cooldowns.dropExpired now.epoch) ∧
      clearExpiredCooldowns { m with cooldowns } now =
        { m.clearExpiredCooldowns now with cooldowns := cooldowns.dropExpired now.epoch }) ∧
    (m.clearExpiredCooldowns now).clearExpiredCooldowns now = m.clearExpiredCooldowns now := by
  have once : (m.cooldowns.expired now.epoch).Nodup :=
    m.cooldowns.ends.nodup.sublist (List.filter_sublist.map _)
  refine ⟨clearExpiredCooldowns_cooldowns m now, m.cooldowns.get?_dropExpired_eq now.epoch,
    fun _ => Cooldowns.mem_expired_iff, once, fun _ => clearInOrder_eq, ?_, clearExpiredCooldowns_again m now⟩
  intro cooldowns same
  exact ⟨same.dropExpired now.epoch, clearExpiredCooldowns_of_same same now⟩

/-- Three cooldowns, two of which have ended, over a catalog that lists a key twice. -/
theorem twiceListed_cleared_alike :
    let m := (ofConfig {} (.ofCountries twiceListed)).run
      [(⟨⟨0, 100⟩, true⟩, .setCooldown "a" 5), (⟨⟨0, 100⟩, true⟩, .setCooldown "c" 50),
        (⟨⟨1000, 101⟩, true⟩, .setCooldown "b" 5)]
    let now : Reading := ⟨9000, 109⟩
    m.cooldowns.expired now.epoch = ["a", "b"] ∧ m.catalog.cities.map City.grade = [.unavailable, .unavailable] ∧
    m.clearInOrder now ["b", "a"] = m.clearExpiredCooldowns now ∧
    (m.clearExpiredCooldowns now).catalog.cities.map City.grade = [.poor, .poor] ∧
    (m.clearExpiredCooldowns now).alarms.cooldown = some 50000 := by
  intro m now
  obtain ⟨_, _, _, _, ordered, _, _⟩ := expiry_order_is_immaterial m now
  have swapped : ["b", "a"].Perm (m.cooldowns.expired now.epoch) := List.Perm.swap "a" "b" []
  exact ⟨rfl, rfl, ordered ["b", "a"] swapped, by decide, by decide⟩

end Monitor

end RelayQuality
