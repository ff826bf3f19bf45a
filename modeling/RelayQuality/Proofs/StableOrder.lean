import RelayQuality.Monitor.Sweeping

/-!
# The stable order of a sweep

Doubles stand in one line by sign and magnitude (`Distance.NoFarther`), the ones that are no number included. A
`Sweep.StableOrder` is sorted by distance and has the records of each distance as they were given, which leaves no choice
(`Sweep.StableOrder.unique`). `load` puts its records into it, so that the relays of a city stay together.
-/

namespace RelayQuality

namespace Distance

def isNegative (d : Distance) : Bool := 9223372036854775808 ≤ d.bits.toNat

def magnitude (d : Distance) : Nat := d.bits.toNat % 9223372036854775808

/-- The total order of doubles: with the sign bit the larger magnitude comes first, without it the smaller. -/
def NoFarther (a b : Distance) : Prop :=
  match a.isNegative, b.isNegative with
  | true, true => b.magnitude ≤ a.magnitude
  | true, false => True
  | false, true => False
  | false, false => a.magnitude ≤ b.magnitude

theorem noFarther_iff {a b : Distance} : a.NoFarther b ↔ a.rank ≤ b.rank := by
  have small := a.bits.toNat_lt
  have small' := b.bits.toNat_lt
  unfold NoFarther rank magnitude
  cases first : a.isNegative with
  | true =>
    have signed : 9223372036854775808 ≤ a.bits.toNat := of_decide_eq_true first
    rw [if_neg (by omega)]
    cases second : b.isNegative with
    | true =>
      have signed' : 9223372036854775808 ≤ b.bits.toNat := of_decide_eq_true second
      rw [if_neg (by omega)]
      show _ ≤ _ ↔ _
      omega
    | false =>
      have plain : ¬ 9223372036854775808 ≤ b.bits.toNat := of_decide_eq_false second
      rw [if_pos (by omega)]
      exact iff_of_true trivial (by omega)
  | false =>
    have plain : ¬ 9223372036854775808 ≤ a.bits.toNat := of_decide_eq_false first
    rw [if_pos (by omega)]
    cases second : b.isNegative with
    | true =>
      have signed : 9223372036854775808 ≤ b.bits.toNat := of_decide_eq_true second
      rw [if_neg (by omega)]
      exact iff_of_false id (by omega)
    | false =>
      have plain' : ¬ 9223372036854775808 ≤ b.bits.toNat := of_decide_eq_false second
      rw [if_pos (by omega)]
      show _ ≤ _ ↔ _
      omega

theorem le_iff {a b : Distance} : le a b = true ↔ a.NoFarther b := by
  rw [le, decide_eq_true_iff, noFarther_iff]

instance (a b : Distance) : Decidable (a.NoFarther b) := decidable_of_iff _ le_iff

/-- From the negative ones that are no numbers over -∞, -1, -0, 0, 1 and ∞ to the positive ones that are none. -/
example : List.Pairwise NoFarther
    [negativeNaN, ⟨0xfff0000000000000⟩, ⟨0xbff0000000000000⟩, ⟨0x8000000000000000⟩, ⟨0⟩, ⟨0x3ff0000000000000⟩,
      ⟨0x7ff0000000000000⟩, ⟨0x7ff8000000000000⟩] := by
  decide

end Distance

namespace Sweep

/-- The records sorted by distance, where equal distances keep their order. -/
structure StableOrder (records sorted : List Probe) : Prop where
  perm : sorted.Perm records
  ordered : sorted.Pairwise fun p q => p.distance.NoFarther q.distance
  stable : ∀ d, sorted.filter (·.distance = d) = records.filter (·.distance = d)

theorem load_stable (s : Sweep) (records : List Probe) : StableOrder records (s.load records).queue where
  perm := List.mergeSort_perm records _
  ordered := by
    have sorted := List.pairwise_mergeSort (fun a b c => Distance.le_trans a.distance b.distance c.distance)
      (fun a b => Distance.le_total a.distance b.distance) records
    exact sorted.imp Distance.le_iff.mp
  stable := by
    intro d
    -- records of one distance stand in order, so that sorting leaves them in the order they have
    have level : (records.filter (·.distance = d)).Pairwise fun p q => p.distance.le q.distance = true := by
      refine List.pairwise_of_forall_mem_list ?_
      intro p first q second
      have here : p.distance = d := of_decide_eq_true (List.mem_filter.mp first).2
      have there : q.distance = d := of_decide_eq_true (List.mem_filter.mp second).2
      rw [here, there]
      exact Distance.le_refl d
    have kept := List.sublist_mergeSort (fun a b c => Distance.le_trans a.distance b.distance c.distance)
      (fun a b => Distance.le_total a.distance b.distance) level List.filter_sublist
    have same := kept.filter (·.distance = d)
    rw [List.filter_filter] at same
    simp only [Bool.and_self] at same
    refine (same.eq_of_length ?_).symm
    exact (((List.mergeSort_perm records _).filter _).length_eq).symm

section Sorted

variable {sorted : List Probe}

/-- A sorted list is cut in two places by a distance. -/
theorem cut_at_distance (ordered : sorted.Pairwise fun p q => p.distance.NoFarther q.distance) (d : Distance) :
    sorted.filter (·.distance.rank < d.rank) ++ sorted.filter (·.distance = d) ++
      sorted.filter (d.rank < ·.distance.rank) = sorted := by
  induction sorted with
  | nil => rfl
  | cons p rest ih =>
    obtain ⟨first, ordered⟩ := List.pairwise_cons.mp ordered
    have cut := ih ordered
    have after : ∀ q ∈ rest, p.distance.rank ≤ q.distance.rank := fun q member => Distance.noFarther_iff.mp (first q member)
    rcases Nat.lt_trichotomy p.distance.rank d.rank with near | here | far
    · have other : p.distance ≠ d := by
        rintro rfl
        exact Nat.lt_irrefl _ near
      rw [List.filter_cons_of_pos (by simpa using near), List.filter_cons_of_neg (by simpa using other),
        List.filter_cons_of_neg (by simpa using Nat.le_of_lt near), List.cons_append, List.cons_append, cut]
    · have same : p.distance = d := Distance.rank_injective here
      have none : rest.filter (·.distance.rank < d.rank) = [] := by
        refine List.filter_eq_nil_iff.mpr ?_
        intro q member
        have behind := after q member
        simpa using here ▸ behind
      rw [none, List.nil_append] at cut
      rw [List.filter_cons_of_neg (by simp [here]), List.filter_cons_of_pos (by simpa using same),
        List.filter_cons_of_neg (by simp [here]), none, List.nil_append, List.cons_append, cut]
    · have beyond : ∀ q ∈ p :: rest, d.rank < q.distance.rank := by
        refine List.forall_mem_cons.mpr ⟨far, ?_⟩
        intro q member
        exact Nat.lt_of_lt_of_le far (after q member)
      have none : (p :: rest).filter (·.distance.rank < d.rank) = [] := by
        refine List.filter_eq_nil_iff.mpr ?_
        intro q member
        simpa using Nat.le_of_lt (beyond q member)
      have level : (p :: rest).filter (·.distance = d) = [] := by
        refine List.filter_eq_nil_iff.mpr ?_
        intro q member
        simpa using fun same : q.distance = d => Nat.lt_irrefl _ (same ▸ beyond q member)
      have all : (p :: rest).filter (d.rank < ·.distance.rank) = p :: rest := by
        refine List.filter_eq_self.mpr ?_
        intro q member
        simpa using beyond q member
      rw [none, level, all]
      rfl

/-- A sorted list is known by what it has at each distance. -/
theorem eq_of_levels {other : List Probe} (ordered : sorted.Pairwise fun p q => p.distance.NoFarther q.distance)
    (ordered' : other.Pairwise fun p q => p.distance.NoFarther q.distance)
    (same : ∀ d, sorted.filter (·.distance = d) = other.filter (·.distance = d)) : sorted = other := by
  induction sorted generalizing other with
  | nil =>
    cases other with
    | nil => rfl
    | cons q others => simpa using same q.distance
  | cons p rest ih =>
    cases other with
    | nil => simpa using same p.distance
    | cons q others =>
      obtain ⟨first, later⟩ := List.pairwise_cons.mp ordered
      obtain ⟨first', later'⟩ := List.pairwise_cons.mp ordered'
      have there : p ∈ q :: others := by
        have listed : p ∈ (q :: others).filter (·.distance = p.distance) := by simp [← same]
        exact (List.mem_filter.mp listed).1
      have here : q ∈ p :: rest := by
        have listed : q ∈ (p :: rest).filter (·.distance = q.distance) := by simp [same]
        exact (List.mem_filter.mp listed).1
      have level : p.distance = q.distance := by
        refine Distance.rank_injective (Nat.le_antisymm ?_ ?_)
        · rcases List.mem_cons.mp here with rfl | behind
          · exact Nat.le_refl _
          · exact Distance.noFarther_iff.mp (first q behind)
        · rcases List.mem_cons.mp there with rfl | behind
          · exact Nat.le_refl _
          · exact Distance.noFarther_iff.mp (first' p behind)
      have heads := same p.distance
      rw [List.filter_cons_of_pos (by simp), List.filter_cons_of_pos (by simp [level])] at heads
      obtain ⟨rfl, _⟩ := List.cons.inj heads
      refine congrArg (p :: ·) (ih later later' ?_)
      intro d
      have tails := same d
      rw [List.filter_cons, List.filter_cons] at tails
      split at tails
      · exact List.tail_eq_of_cons_eq tails
      · exact tails

end Sorted

/-- There is one stable order. -/
theorem StableOrder.unique {records sorted other : List Probe} (one : StableOrder records sorted)
    (two : StableOrder records other) : other = sorted :=
  eq_of_levels two.ordered one.ordered fun d => (two.stable d).trans (one.stable d).symm

end Sweep

namespace Monitor

theorem distance_of_probe {m : Monitor} {city : City} {p : Probe} (member : p ∈ m.probesOf city) :
    p.distance = m.distanceOf city := by
  obtain ⟨_, _, rfl⟩ := List.mem_map.mp member
  rfl

/-- The relays of a city are all at one distance, where the queue has them as the catalog does. -/
theorem city_is_contiguous (m : Monitor) {before after : List City} {city : City}
    (listed : m.catalog.cities = before ++ city :: after) :
    ∃ nearer farther, m.prepared.sweep.queue = nearer ++ m.probesOf city ++ farther := by
  let d := m.distanceOf city
  let queue := m.prepared.sweep.queue
  have stable : Sweep.StableOrder m.roster queue := Sweep.load_stable m.sweep m.roster
  have all : (m.probesOf city).filter (·.distance = d) = m.probesOf city := by
    refine List.filter_eq_self.mpr ?_
    intro p member
    exact decide_eq_true (distance_of_probe member)
  have level : m.roster.filter (·.distance = d) =
      (before.flatMap m.probesOf).filter (·.distance = d) ++ m.probesOf city ++
        (after.flatMap m.probesOf).filter (·.distance = d) := by
    rw [roster, listed, List.flatMap_append, List.flatMap_cons, List.filter_append, List.filter_append, all,
      List.append_assoc]
  have cut := Sweep.cut_at_distance stable.ordered d
  rw [stable.stable, level] at cut
  refine ⟨queue.filter (·.distance.rank < d.rank) ++ (before.flatMap m.probesOf).filter (·.distance = d),
    (after.flatMap m.probesOf).filter (·.distance = d) ++ queue.filter (d.rank < ·.distance.rank), ?_⟩
  simpa only [List.append_assoc] using cut.symm

end Monitor

end RelayQuality
