import Mathlib.Data.List.Nodup

/-!
# Lists and places in them

What becomes of a list that is changed at one place, and how places in a list lie to each other.
-/

namespace RelayQuality

variable {α β : Type} {l : List α} {i j : Nat}

/-! ### A change at one place -/

theorem modify_congr {f g : α → α} (same : ∀ a, l[i]? = some a → f a = g a) : l.modify i f = l.modify i g := by
  refine List.ext_getElem? fun j => ?_
  rw [List.getElem?_modify, List.getElem?_modify]
  split
  next here =>
    subst here
    cases found : l[i]? with
    | none => rfl
    | some a => exact congrArg some (same a found)
  next => rfl

theorem modify_comm (l : List α) (i j : Nat) (change : α → α) :
    (l.modify i change).modify j change = (l.modify j change).modify i change := by
  by_cases same : i = j
  · rw [same]
  · exact List.modify_modify_ne change change l same

theorem map_modify_of_same {f : α → β} {change : α → α} (same : ∀ a, f (change a) = f a) (l : List α) (i : Nat) :
    (l.modify i change).map f = l.map f := by
  apply List.ext_getElem?
  intro j
  rw [List.getElem?_map, List.getElem?_map, List.getElem?_modify]
  by_cases here : i = j
  · cases l[j]? <;> simp [here, same]
  · simp [here]

/-! ### Places -/

theorem zipIdx_ordered (l : List α) : l.zipIdx.Pairwise fun a b => a.2 < b.2 := by
  rw [List.pairwise_iff_getElem]
  intro i j _ _ before
  simpa using before

/-- Lists that are distinct when joined share no member. -/
theorem index_of_nodup_flatMap {f : α → List β} (nodup : (l.flatMap f).Nodup) {a b : α} {x : β}
    (first : l[i]? = some a) (second : l[j]? = some b) (left : x ∈ f a) (right : x ∈ f b) : i = j := by
  have apart := List.pairwise_iff_getElem.mp (List.nodup_flatMap.mp nodup).2
  obtain ⟨low, rfl⟩ := List.getElem?_eq_some_iff.mp first
  obtain ⟨high, rfl⟩ := List.getElem?_eq_some_iff.mp second
  rcases Nat.lt_trichotomy i j with before | same | after
  · exact absurd right (apart i j low high before left)
  · exact same
  · exact absurd left (apart j i high low after right)

end RelayQuality
