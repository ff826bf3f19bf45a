import RelayQuality.Proofs.Lists
import RelayQuality.Report

/-!
# The ranking of a report

Three keys compare two rows in turn, and `Row.order` is total and transitive, so that no row stands in the way of another.
The rows of a sorted report are those of the catalog; of two rows the earlier one outranks the later one, or they tie and it
came first in the catalog.
-/

namespace RelayQuality

namespace Row

variable {a b : Row}

/-- By grade from the highest, then the measured rows before the others, then by latency. -/
def order (a b : Row) : Ordering :=
  (compare b.level a.level).then ((compare b.isMeasured a.isMeasured).then (compare a.latency b.latency))

instance : Std.TransCmp order :=
  inferInstanceAs (Std.TransCmp (compareLex (fun a b : Row => compareOn level b a)
    (compareLex (fun a b : Row => compareOn isMeasured b a) (compareOn latency))))

/-- The higher grade, or of one grade the measured row before the other, or of two measured rows the faster one. -/
def Outranks (a b : Row) : Prop :=
  b.grade < a.grade ∨ a.grade = b.grade ∧
    (0 < a.latency ∧ b.latency = 0 ∨ 0 < a.latency ∧ 0 < b.latency ∧ a.latency < b.latency)

def Ties (a b : Row) : Prop := a.grade = b.grade ∧ a.latency = b.latency

theorem Ties.symm (ties : a.Ties b) : b.Ties a := ⟨ties.1.symm, ties.2.symm⟩

theorem isMeasured_iff : a.isMeasured = true ↔ 0 < a.latency := by
  rw [isMeasured, bne_iff_ne, Nat.pos_iff_ne_zero]

theorem isMeasured_eq_false_iff : a.isMeasured = false ↔ a.latency = 0 := by
  rw [isMeasured, bne_eq_false_iff_eq]

theorem grade_lt_irrefl (g : Grade) : ¬ g < g := Int.lt_irrefl g.level

/-- Within one grade the measured rows come first, from the fastest. -/
theorem not_slower_iff :
    (if a.isMeasured = b.isMeasured then decide (a.latency ≤ b.latency) else a.isMeasured) = true ↔
      (0 < a.latency ∧ b.latency = 0 ∨ 0 < a.latency ∧ 0 < b.latency ∧ a.latency < b.latency) ∨
        a.latency = b.latency := by
  cases first : a.isMeasured <;> cases second : b.isMeasured <;>
    simp only [isMeasured_iff, isMeasured_eq_false_iff] at first second <;> simp <;> omega

theorem le_iff : a.le b = true ↔ a.Outranks b ∨ a.Ties b := by
  rw [le, Outranks, Ties]
  split
  next same =>
    rw [not_slower_iff, same]
    simp [grade_lt_irrefl]
  next other => simp [other]

/-- What stands before what is what the three keys say. -/
theorem le_eq_isLE (a b : Row) : a.le b = (a.order b).isLE := by
  have inner : (if a.isMeasured = b.isMeasured then decide (a.latency ≤ b.latency) else a.isMeasured) =
      ((compare b.isMeasured a.isMeasured).then (compare a.latency b.latency)).isLE := by
    cases a.isMeasured <;> cases b.isMeasured
    case false.true | true.false => rfl
    all_goals
      rw [Bool.eq_iff_iff]
      simp [Nat.isLE_compare]
  rw [le, order]
  split
  next same =>
    have level : compare b.level a.level = .eq := Int.compare_eq_eq.mpr (congrArg Grade.level same.symm)
    rw [level, inner]
    rfl
  next other =>
    rcases Int.lt_trichotomy b.level a.level with higher | same | lower
    · have before : b.grade < a.grade := higher
      rw [Int.compare_eq_lt.mpr higher, decide_eq_true before]
      rfl
    · exact absurd (Grade.level_injective same).symm other
    · have after : ¬ b.grade < a.grade := Int.lt_asymm lower
      rw [Int.compare_eq_gt.mpr lower, decide_eq_false after]
      rfl

theorem le_trans (a b c : Row) : a.le b = true → b.le c = true → a.le c = true := by
  rw [le_eq_isLE, le_eq_isLE, le_eq_isLE]
  exact Std.TransCmp.isLE_trans

theorem le_total (a b : Row) : (a.le b || b.le a) = true := by
  have swapped : b.order a = (a.order b).swap := Std.OrientedCmp.eq_swap
  rw [le_eq_isLE, le_eq_isLE, swapped]
  cases a.order b <;> rfl

theorem level_le (before : a.le b = true) : b.level ≤ a.level := by
  rcases le_iff.mp before with higher | ties
  · rcases higher with higher | ⟨same, _⟩
    · exact Int.le_of_lt higher
    · exact Int.le_of_eq (congrArg Grade.level same.symm)
  · exact Int.le_of_eq (congrArg Grade.level ties.1.symm)

/-- Of two rows with their places, the first is before the second in a stable ranking. -/
def Precedes (a b : Row × Nat) : Prop := a.1.Outranks b.1 ∨ a.1.Ties b.1 ∧ a.2 < b.2

theorem precedes_of_zipIdxLE {a b : Row × Nat} (before : List.zipIdxLE le a b = true) (apart : a.2 ≠ b.2) :
    Precedes a b := by
  rw [List.zipIdxLE] at before
  split at before
  next first =>
    rcases le_iff.mp first with outranks | ties
    · exact .inl outranks
    · rw [if_pos (le_iff.mpr (.inr ties.symm))] at before
      exact .inr ⟨ties, Nat.lt_of_le_of_ne (of_decide_eq_true before) apart⟩
  next => cases before

end Row

namespace Report

/-- Sorting puts the rows in order, each with the place it came from. -/
theorem exists_places (rows : List Row) :
    ∃ places : List (Row × Nat), places.Perm rows.zipIdx ∧ rows.mergeSort Row.le = places.map Prod.fst ∧
      places.Pairwise Row.Precedes := by
  refine ⟨rows.zipIdx.mergeSort (List.zipIdxLE Row.le), List.mergeSort_perm _ _, List.mergeSort_zipIdx.symm, ?_⟩
  have ordered := List.pairwise_mergeSort (List.zipIdxLE_trans Row.le_trans) (List.zipIdxLE_total Row.le_total)
    rows.zipIdx
  have apart : (rows.zipIdx.mergeSort (List.zipIdxLE Row.le)).Pairwise fun a b => a.2 ≠ b.2 :=
    ((zipIdx_ordered rows).imp Nat.ne_of_lt).perm (List.mergeSort_perm _ _).symm Ne.symm
  exact ordered.imp₂ (fun _ _ before apart => Row.precedes_of_zipIdxLE before apart) apart

theorem sorted_ordered (r : Report) : r.sorted.rows.Pairwise fun a b => a.le b = true :=
  List.pairwise_mergeSort Row.le_trans Row.le_total r.rows

theorem sorted_sorted (r : Report) : r.sorted.sorted = r.sorted := by
  have same : r.sorted.rows.mergeSort Row.le = r.sorted.rows := List.mergeSort_of_pairwise (sorted_ordered r)
  rw [sorted, same]

/-- A sorted report has one row for each city, and of two rows the earlier one outranks the later one, or they tie and
it came first in the catalog. -/
theorem sorted_report_ranks (time : Timestamp) (catalog : Catalog) (average : Nat) :
    let rows := catalog.cities.map fun c => (⟨c.country, c.code, c.name, c.relays.length, c.latency, c.grade⟩ : Row)
    let report := (ofCatalog time catalog average).sorted
    report.time = time ∧ report.average = average ∧
    (∃ places : List (Row × Nat), places.Perm rows.zipIdx ∧ report.rows = places.map Prod.fst ∧
      places.Pairwise Row.Precedes) ∧
    report.rows.Pairwise (fun a b => b.level ≤ a.level) ∧
    report.sorted = report ∧
    Std.TransCmp Row.order ∧ ∀ a b : Row, a.le b = (a.order b).isLE := by
  intro rows report
  refine ⟨rfl, rfl, ?_, ?_, sorted_sorted _, inferInstance, Row.le_eq_isLE⟩
  · exact exists_places rows
  · exact (sorted_ordered _).imp Row.level_le

end Report

end RelayQuality
