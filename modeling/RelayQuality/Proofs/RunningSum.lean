import Mathlib.Data.List.Infix
import Mathlib.Data.List.Induction
import Mathlib.Order.Bounds.Basic
import RelayQuality.Proofs.Totals

/-!
# The running sum

Samples are recorded and forgotten in any order. What they hold is told by that history alone (`LastRecorded`). As long
as all of them together fit into 64 bits, so does every step of the running sum, which then is their sum at every moment.
-/

namespace RelayQuality

/-! ### Rounded means -/

theorem ceilMean_isLeast {sum count : Nat} (bare : count = 0 → sum = 0) :
    IsLeast {m | sum ≤ m * count} (ceilMean sum count) := by
  rcases Nat.eq_zero_or_pos count with rfl | positive
  · exact ⟨by simp [bare], fun _ _ => Nat.zero_le _⟩
  · exact ⟨(ceilMean_le_iff positive).mp (Nat.le_refl _), fun m reaches => (ceilMean_le_iff positive).mpr reaches⟩

theorem exists_le_ceilMean {values : List Nat} (some : values ≠ []) :
    ∃ value ∈ values, value ≤ ceilMean values.sum values.length := by
  have reaches := (ceilMean_le_iff (List.length_pos_iff.mpr some)).mp (Nat.le_refl (ceilMean values.sum values.length))
  refine List.exists_le_of_sum_le some id (fun _ => ceilMean values.sum values.length) ?_
  rw [List.map_id, List.map_const', List.sum_replicate, Nat.nsmul_eq_mul, Nat.mul_comm]
  exact reaches

theorem exists_ge_ceilMean {values : List Nat} (some : values ≠ []) :
    ∃ value ∈ values, ceilMean values.sum values.length ≤ value := by
  by_contra below
  push Not at below
  obtain ⟨value, member⟩ := List.exists_mem_of_ne_nil values some
  -- if all lay below the mean, one less than the mean would do
  have most : ∀ value ∈ values, value ≤ ceilMean values.sum values.length - 1 :=
    fun value member => Nat.le_sub_one_of_lt (below value member)
  have less := List.sum_le_card_nsmul values _ most
  rw [Nat.nsmul_eq_mul, Nat.mul_comm, ← ceilMean_le_iff (List.length_pos_iff.mpr some)] at less
  have above := below value member
  omega

namespace Samples

/-! ### Histories -/

inductive Change where
  | record (key : String) (ms : Nat)
  | clear
deriving DecidableEq

def change (s : Samples) : Change → Samples
  | .record key ms => s.record key ms
  | .clear => .empty

def after (changes : List Change) : Samples := changes.foldl change .empty

/-- This was recorded for the server, and since then neither something else nor was all forgotten. -/
def LastRecorded (changes : List Change) (key : String) (ms : Nat) : Prop :=
  ∃ before later, changes = before ++ .record key ms :: later ∧ .clear ∉ later ∧ ∀ other, .record key other ∉ later

/-- At every moment all samples together fit into 64 bits. -/
def Fits (changes : List Change) : Prop := ∀ before, before <+: changes → (after before).whole ≤ Millis.last

variable {changes before : List Change} {key : String} {ms : Nat}

theorem after_concat (before : List Change) (last : Change) : after (before ++ [last]) = (after before).change last := by
  rw [after, List.foldl_append]
  rfl

theorem Fits.of_prefix (fits : Fits changes) (shorter : before <+: changes) : Fits before :=
  fun _ first => fits _ (first.trans shorter)

theorem not_lastRecorded_nil : ¬ LastRecorded [] key ms := by
  rintro ⟨before, later, split, _⟩
  simp at split

theorem lastRecorded_concat {last : Change} :
    LastRecorded (before ++ [last]) key ms ↔
      last = .record key ms ∨ last ≠ .clear ∧ (∀ other, last ≠ .record key other) ∧ LastRecorded before key ms := by
  constructor
  · rintro ⟨first, later, split, kept, newest⟩
    rcases List.eq_nil_or_concat' later with rfl | ⟨later, final, rfl⟩
    · exact Or.inl (List.singleton_inj.mp (List.append_inj_right' split rfl))
    · rw [← List.cons_append, ← List.append_assoc] at split
      obtain ⟨same, here⟩ := List.append_inj' split rfl
      obtain rfl := List.singleton_inj.mp here
      simp only [List.mem_append, List.mem_singleton, not_or] at kept newest
      exact Or.inr ⟨fun cleared => kept.2 cleared.symm, fun other again => (newest other).2 again.symm, first, later, same,
        kept.1, fun other => (newest other).1⟩
  · rintro (rfl | ⟨kept, newest, first, later, rfl, kept', newest'⟩)
    · exact ⟨before, [], rfl, by simp, by simp⟩
    · refine ⟨first, later ++ [last], by simp, ?_, ?_⟩
      · simp [kept', kept.symm]
      · exact fun other => by simp [newest' other, (newest other).symm]

theorem get?_after (changes : List Change) (key : String) (ms : Nat) :
    (after changes).get? key = some ms ↔ LastRecorded changes key ms := by
  induction changes using List.reverseRecOn with
  | nil => exact ⟨nofun, fun recorded => absurd recorded not_lastRecorded_nil⟩
  | append_singleton before last ih =>
    rw [after_concat, lastRecorded_concat, ← ih]
    cases last with
    | clear => simp [change, show Samples.empty.get? key = none from rfl]
    | record other new =>
      rw [change, get?_record]
      by_cases same : key = other
      · simp [same]
      · simp [same, Ne.symm same]

theorem Fits.built (fits : Fits changes) : (after changes).Built := by
  induction changes using List.reverseRecOn with
  | nil => exact .empty
  | append_singleton before last ih =>
    have built := ih (fits.of_prefix (List.prefix_append _ _))
    rw [after_concat]
    cases last with
    | clear => exact .empty
    | record key ms =>
      have small := (after (before ++ [.record key ms])).amount_le_whole key
      rw [after_concat, change, amount_record, Function.update_self, ← change, ← after_concat] at small
      exact .record key (Nat.le_trans small (fits _ (List.prefix_refl _))) built

theorem Fits.sum_eq (fits : Fits changes) : (after changes).sum = (after changes).whole := by
  rw [fits.built.sum_eq, Millis.wrap_eq (fits _ (List.prefix_refl _))]

/-- What the running sum takes away is in it, and what it comes to is in range. -/
theorem Fits.record (fits : Fits (before ++ [.record key ms])) :
    let s := after before
    s.amount key ≤ s.sum ∧ s.sum - s.amount key + ms ≤ Millis.last ∧
      (s.record key ms).sum = s.sum - s.amount key + ms := by
  intro s
  have earlier : s.sum = s.whole := (fits.of_prefix (List.prefix_append _ _)).sum_eq
  have later : (s.record key ms).sum = (s.record key ms).whole := by
    have sum := fits.sum_eq
    rwa [after_concat] at sum
  have bound : (s.record key ms).whole ≤ Millis.last := by
    have bound := fits _ (List.prefix_refl _)
    rwa [after_concat] at bound
  have exchanged := whole_record s key ms
  have part := s.amount_le_whole key
  refine ⟨?_, ?_, ?_⟩ <;> omega

theorem average_isLeast {s : Samples} (exact : s.sum = s.whole) : IsLeast {m | s.sum ≤ m * s.size} s.average := by
  refine ceilMean_isLeast fun none => ?_
  have bare : s.values.values = [] := by
    rw [← List.length_eq_zero_iff, KeyMap.values, List.length_map]
    exact none
  rw [exact, whole, bare]
  rfl

/-- While all samples together fit into 64 bits, the running sum is the sum of the samples that were recorded last, and
each mean is the least number that reaches its sum. -/
theorem running_sum_is_exact (fits : Fits changes) :
    let s := after changes
    s.sum = s.values.values.sum ∧
    (∀ key ms, s.get? key = some ms ↔ LastRecorded changes key ms) ∧
    (∀ before key ms, before ++ [.record key ms] <+: changes →
      let t := after before
      t.amount key ≤ t.sum ∧ t.sum - t.amount key + ms ≤ Millis.last ∧
        (t.record key ms).sum = t.sum - t.amount key + ms) ∧
    (s.size = 0 → s.average = 0) ∧
    IsLeast {m | s.sum ≤ m * s.size} s.average ∧
    (s.size ≠ 0 → (∃ ms ∈ s.values.values, ms ≤ s.average) ∧ ∃ ms ∈ s.values.values, s.average ≤ ms) ∧
    ∀ keys : List String, keys.Nodup →
      (∀ part, part <+: keys → (s.positive part).sum ≤ Millis.last) ∧
      IsLeast {m | (s.positive keys).sum ≤ m * (s.positive keys).length} (s.meanOf keys) := by
  intro s
  have exact : s.sum = s.whole := fits.sum_eq
  have bound : s.whole ≤ Millis.last := fits _ (List.prefix_refl _)
  have size : s.values.values.length = s.size := List.length_map _
  have mean : s.average = ceilMean s.values.values.sum s.values.values.length := by
    rw [size, average, exact, whole]
  refine ⟨by rw [exact, whole], get?_after changes, ?_, ?_, average_isLeast exact, ?_, ?_⟩
  · exact fun before key ms shorter => (fits.of_prefix shorter).record
  · intro none
    rw [average, none]
    rfl
  · intro some
    rw [mean]
    have some : s.values.values ≠ [] := fun none => some (by rw [← size, none]; rfl)
    exact ⟨exists_le_ceilMean some, exists_ge_ceilMean some⟩
  · intro keys distinct
    have inRange {part : List String} (shorter : part <+: keys) : (s.positive part).sum ≤ Millis.last :=
      Nat.le_trans (s.sum_positive_le (distinct.sublist shorter.sublist)) bound
    refine ⟨fun part shorter => inRange shorter, ?_⟩
    rw [meanOf_of_fits (inRange (List.prefix_refl keys))]
    exact ceilMean_isLeast fun none => by rw [List.length_eq_zero_iff.mp none]; rfl

/-- The sum comes to its largest value, and down from it, before all is forgotten. -/
def fullAndForgotten : List Change :=
  [.record "a" 100, .record "b" 18446744073709551515, .record "b" 3, .clear, .record "a" 0, .record "c" 5, .record "c" 8,
    .record "d" 4]

theorem fullAndForgotten_exact :
    Fits fullAndForgotten ∧ (after fullAndForgotten).sum = 12 ∧ (after fullAndForgotten).average = 4 ∧
    LastRecorded fullAndForgotten "c" 8 ∧ (after fullAndForgotten).get? "b" = none ∧
    IsLeast {m | 12 ≤ m * 2} ((after fullAndForgotten).meanOf ["a", "b", "c", "d"]) := by
  have fits : Fits fullAndForgotten := by
    have all : ∀ before ∈ fullAndForgotten.inits, (after before).whole ≤ Millis.last := by decide
    exact fun before shorter => all before ((List.mem_inits _ _).mpr shorter)
  obtain ⟨sum, last, _, _, mean, _, chosen⟩ := running_sum_is_exact fits
  refine ⟨fits, ?_, by decide, (last "c" 8).mp (by decide), by decide, ?_⟩
  · rw [sum]
    decide
  · obtain ⟨_, least⟩ := chosen ["a", "b", "c", "d"] (by decide)
    exact least

end Samples

end RelayQuality
