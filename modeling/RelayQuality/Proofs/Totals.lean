import Mathlib.Algebra.Order.BigOperators.Group.List
import Mathlib.Algebra.Order.Group.Nat
import Mathlib.Data.List.Nodup
import Mathlib.Data.List.Perm.Subperm
import Mathlib.Data.Rat.Floor
import RelayQuality.Proofs.Sampling

/-!
# Sums of samples

Whatever was recorded, the running sum is the sum of the samples up to multiples of 2^64 (`Built.sum_eq`). Where that sum
fits into 64 bits, both means are exact means rounded up.
-/

namespace RelayQuality

/-- The mean of numbers, rounded up; zero if there are none. -/
def meanUp (values : List Nat) : Nat := ⌈(values.sum : ℚ) / values.length⌉₊

theorem ceilMean_eq_meanUp (values : List Nat) : ceilMean values.sum values.length = meanUp values := by
  rw [meanUp]
  rcases Nat.eq_zero_or_pos values.length with none | positive
  · rw [none]
    simp [ceilMean]
  · refine eq_of_forall_ge_iff fun m => ?_
    have positive' : (0 : ℚ) < values.length := by exact_mod_cast positive
    rw [ceilMean_le_iff positive, Nat.ceil_le, div_le_iff₀ positive']
    exact_mod_cast Iff.rfl

theorem lt_ceilMean_iff {sum count m : Nat} (positive : 0 < count) : m < ceilMean sum count ↔ m * count < sum := by
  rw [← Nat.not_le, ceilMean_le_iff positive, Nat.not_le]

theorem ceilMean_mono {low high : Nat} (count : Nat) (order : low ≤ high) :
    ceilMean low count ≤ ceilMean high count := by
  rcases Nat.eq_zero_or_pos count with rfl | positive
  · exact Nat.le_refl 0
  · rw [ceilMean_le_iff positive]
    exact Nat.le_trans order ((ceilMean_le_iff positive).mp (Nat.le_refl _))

namespace KeyMap

variable {α : Type} {m : KeyMap α}

theorem get?_of_mem {entry : String × α} (member : entry ∈ m.entries) : m.get? entry.1 = some entry.2 := by
  obtain ⟨found, same⟩ : ∃ found, m.entries.find? (·.1 == entry.1) = some found := by
    rw [← Option.isSome_iff_exists, List.find?_isSome]
    exact ⟨entry, member, beq_self_eq_true _⟩
  have key : found.1 = entry.1 := by simpa using List.find?_some same
  have one : found = entry := List.inj_on_of_nodup_map m.nodup (List.mem_of_find?_eq_some same) member key
  rw [get?, same, one]
  rfl

theorem values_eq (m : KeyMap α) (absent : α) : m.values = m.keys.map fun key => (m.get? key).getD absent := by
  rw [values, keys, List.map_map]
  apply List.map_congr_left
  intro entry member
  rw [Function.comp, get?_of_mem member, Option.getD_some]

theorem keys_insert (m : KeyMap α) (key : String) (value : α) :
    (m.insert key value).keys = if key ∈ m.keys then m.keys else m.keys ++ [key] := by
  unfold insert keys
  split
  · exact map_fst_replace _ _ _
  · exact List.map_append

end KeyMap

namespace Samples

variable {s : Samples} {keys : List String}

/-- The sample of a server as a sum counts it. -/
def amount (s : Samples) (key : String) : Nat := (s.get? key).getD 0

/-- The sum of all samples as it is without a limit. -/
def whole (s : Samples) : Nat := s.values.values.sum

theorem values_record (s : Samples) (key : String) (ms : Nat) : (s.record key ms).values = s.values.insert key ms := by
  unfold record
  split <;> rfl

theorem amount_of_get {key : String} {ms : Nat} (sampled : s.get? key = some ms) : s.amount key = ms := by
  rw [amount, sampled, Option.getD_some]

theorem amount_record (s : Samples) (key : String) (ms : Nat) :
    (s.record key ms).amount = Function.update s.amount key ms := by
  funext other
  rw [amount, get?_record, Function.update_apply, amount]
  split <;> rfl

theorem positive_eq (s : Samples) (keys : List String) :
    s.positive keys = (keys.filter (0 < s.amount ·)).map s.amount := by
  induction keys with
  | nil => rfl
  | cons key rest ih =>
    rw [positive, List.filterMap_cons, List.filter_cons]
    unfold positive at ih
    cases found : s.get? key with
    | none => simpa [amount, found] using ih
    | some ms =>
      by_cases counts : 0 < ms
      · simpa [amount, found, counts] using ih
      · simpa [amount, found, counts] using ih

/-- A server without a sample and one with a sample of zero add nothing. -/
theorem sum_positive (s : Samples) (keys : List String) : (s.positive keys).sum = (keys.map s.amount).sum := by
  rw [positive_eq]
  induction keys with
  | nil => rfl
  | cons key rest ih =>
    rw [List.map_cons, List.sum_cons, ← ih, List.filter_cons]
    split
    · rw [List.map_cons, List.sum_cons]
    · simp_all

theorem amount_le_sum (s : Samples) {key : String} (member : key ∈ keys) : s.amount key ≤ (s.positive keys).sum := by
  rw [sum_positive]
  exact List.single_le_sum (fun _ _ => Nat.zero_le _) _ (List.mem_map_of_mem member)

theorem length_positive (s : Samples) (keys : List String) :
    (s.positive keys).length = keys.countP (0 < s.amount ·) := by
  rw [positive_eq, List.length_map, List.countP_eq_length_filter]

theorem whole_eq (s : Samples) : s.whole = (s.values.keys.map s.amount).sum := by
  rw [whole, KeyMap.values_eq s.values 0]
  rfl

theorem amount_le_whole (s : Samples) (key : String) : s.amount key ≤ s.whole := by
  rw [whole_eq]
  by_cases listed : key ∈ s.values.keys
  · exact List.single_le_sum (fun _ _ => Nat.zero_le _) _ (List.mem_map_of_mem listed)
  · have absent : s.get? key = none := Option.not_isSome_iff_eq_none.mp (mt KeyMap.isSome_get?.mp listed)
    rw [amount, absent]
    exact Nat.zero_le _

/-! ### One record -/

/-- One sample takes the place of another in the sum of a list that names its server once. -/
theorem sum_record (distinct : keys.Nodup) {key : String} (member : key ∈ keys) (ms : Nat) :
    (keys.map (s.record key ms).amount).sum + s.amount key = (keys.map s.amount).sum + ms := by
  rw [amount_record]
  induction keys with
  | nil => nomatch member
  | cons first rest ih =>
    obtain ⟨fresh, distinct⟩ := List.nodup_cons.mp distinct
    rw [List.map_cons, List.map_cons, List.sum_cons, List.sum_cons]
    rcases List.mem_cons.mp member with rfl | later
    · have others : rest.map (Function.update s.amount key ms) = rest.map s.amount := by
        apply List.map_congr_left
        intro other listed
        refine Function.update_of_ne ?_ _ _
        rintro rfl
        exact fresh listed
      rw [others, Function.update_self]
      omega
    · have other : first ≠ key := by
        rintro rfl
        exact fresh later
      have sum := ih distinct later
      rw [Function.update_of_ne other]
      omega

theorem whole_record (s : Samples) (key : String) (ms : Nat) :
    (s.record key ms).whole + s.amount key = s.whole + ms := by
  rw [whole_eq, whole_eq, values_record, KeyMap.keys_insert]
  split
  next known => exact sum_record s.values.nodup known ms
  next unknown =>
    have absent : s.amount key = 0 := by
      have missing : s.get? key = none := Option.not_isSome_iff_eq_none.mp (mt KeyMap.isSome_get?.mp unknown)
      rw [amount, missing, Option.getD_none]
    have distinct : (s.values.keys ++ [key]).Nodup := by
      exact List.nodup_append.mpr ⟨s.values.nodup, by simp, by
        rintro known listed _ last rfl
        exact unknown (List.mem_singleton.mp last ▸ listed)⟩
    rw [sum_record distinct (by simp) ms]
    simp [absent]

theorem size_record {key : String} {old : Nat} (sampled : s.get? key = some old) (ms : Nat) :
    (s.record key ms).size = s.size := by
  have known : key ∈ s.values.keys := KeyMap.isSome_get?.mp (Option.isSome_of_mem sampled)
  have keys := KeyMap.keys_insert s.values key ms
  rw [if_pos known, ← values_record] at keys
  have lengths := congrArg List.length keys
  rwa [KeyMap.keys, KeyMap.keys, List.length_map, List.length_map] at lengths

/-! ### All records -/

/-- The samples that come about when round trips of 64 bits are recorded; to forget all is to begin anew. -/
inductive Built : Samples → Prop where
  | empty : Built .empty
  | record {s : Samples} (key : String) {ms : Nat} : ms ≤ Millis.last → Built s → Built (s.record key ms)

theorem Built.amount_le (built : s.Built) (key : String) : s.amount key ≤ Millis.last := by
  induction built with
  | empty => exact Nat.zero_le _
  | record other small _ ih =>
    rw [amount_record, Function.update_apply]
    split
    · exact small
    · exact ih

/-- The running sum counts as 64 bits do, also across records that run past them. -/
theorem Built.sum_eq (built : s.Built) : s.sum = Millis.wrap s.whole := by
  induction built with
  | empty => rfl
  | @record s key ms small built ih =>
    have exact := whole_record s key ms
    have old := built.amount_le key
    cases found : s.values.get? key with
    | some before =>
      have sum : (s.record key ms).sum = exchange s.sum before ms := by rw [Samples.record, found]
      simp only [amount, get?, found, Option.getD_some] at exact old
      simp only [sum, exchange, ih, Millis.wrap, Millis.last] at old ⊢
      omega
    | none =>
      have sum : (s.record key ms).sum = Millis.wrap (s.sum + ms) := by rw [Samples.record, found]
      simp only [amount, get?, found, Option.getD_none] at exact
      simp only [sum, ih, Millis.wrap, Millis.last]
      omega

theorem Built.average_of_fits (built : s.Built) (fits : s.whole ≤ Millis.last) :
    s.average = ceilMean s.whole s.size := by
  rw [average, built.sum_eq, Millis.wrap_eq fits]

theorem Built.average_eq (built : s.Built) (fits : s.whole ≤ Millis.last) : s.average = meanUp s.values.values := by
  have size : s.size = s.values.values.length := (List.length_map _).symm
  rw [built.average_of_fits fits, size]
  exact ceilMean_eq_meanUp s.values.values

/-! ### Servers of one city -/

theorem meanOf_of_fits (fits : (s.positive keys).sum ≤ Millis.last) :
    s.meanOf keys = ceilMean (s.positive keys).sum (s.positive keys).length := by
  rw [meanOf, Millis.wrap_eq fits]

theorem meanOf_eq (fits : (s.positive keys).sum ≤ Millis.last) : s.meanOf keys = meanUp (s.positive keys) := by
  rw [meanOf_of_fits fits, ceilMean_eq_meanUp]

/-- The samples of servers that are named once are some of all samples. -/
theorem positive_subperm (s : Samples) (distinct : keys.Nodup) : (s.positive keys).Subperm s.values.values := by
  have known : keys.filter (0 < s.amount ·) ⊆ s.values.keys := by
    intro key listed
    have counts : 0 < s.amount key := of_decide_eq_true (List.mem_filter.mp listed).2
    refine KeyMap.isSome_get?.mp ?_
    cases found : s.values.get? key with
    | none => simp [amount, get?, found] at counts
    | some ms => rfl
  obtain ⟨part, same, fewer⟩ := List.subperm_of_subset (distinct.filter _) known
  rw [positive_eq, KeyMap.values_eq s.values 0]
  exact ⟨part.map s.amount, same.map _, fewer.map _⟩

theorem length_positive_le (s : Samples) (distinct : keys.Nodup) : (s.positive keys).length ≤ s.size := by
  have fewer := (s.positive_subperm distinct).length_le
  rwa [KeyMap.values, List.length_map] at fewer

theorem sum_positive_le (s : Samples) (distinct : keys.Nodup) : (s.positive keys).sum ≤ s.whole := by
  obtain ⟨part, same, fewer⟩ := s.positive_subperm distinct
  rw [whole, ← same.sum_eq]
  exact fewer.sum_le_sum fun _ _ => Nat.zero_le _

end Samples

end RelayQuality
