import Mathlib.Data.List.Basic
import Mathlib.Data.List.TakeWhile
import Mathlib.Tactic.MkIffOfInductiveProp
import RelayQuality.Text.Space

/-!
# Names in a text

`Spells` says what it means that a text is a name with white space around it, and `trim` finds that name (`spells_iff`).
A text is divided at the first of a character exactly if the character is not in the front part.
-/

namespace RelayQuality

/-! ### Names -/

/-- Nothing but white space. -/
def IsBlank (cs : List Char) : Prop := ∀ c ∈ cs, isSpace c = true

instance (cs : List Char) : Decidable (IsBlank cs) := decidable_of_iff (cs.all isSpace = true) List.all_eq_true

/-- Something other than white space stands at both ends. -/
@[mk_iff]
structure IsTrimmed (cs : List Char) : Prop where
  nonempty : cs ≠ []
  first : ∀ c ∈ cs.head?, isSpace c = false
  last : ∀ c ∈ cs.getLast?, isSpace c = false

instance (cs : List Char) : Decidable (IsTrimmed cs) :=
  decidable_of_iff (cs ≠ [] ∧ cs.head?.all (!isSpace ·) = true ∧ cs.getLast?.all (!isSpace ·) = true) <| by
    simp [isTrimmed_iff, Option.all_eq_true]

/-- The text is the name with white space around it. -/
def Pads (text name : List Char) : Prop :=
  ∃ before after, IsBlank before ∧ IsBlank after ∧ text = before ++ name ++ after

variable {text name front back cs : List Char}

theorem Pads.refl (name : List Char) : Pads name name := ⟨[], [], nofun, nofun, by simp⟩

theorem Pads.not_mem {c : Char} (pads : Pads text name) (dark : isSpace c = false) (absent : c ∉ name) : c ∉ text := by
  obtain ⟨before, after, blank, blank', rfl⟩ := pads
  intro member
  rcases List.mem_append.mp member with member | behind
  · rcases List.mem_append.mp member with ahead | inside
    · exact Bool.false_ne_true (dark.symm.trans (blank c ahead))
    · exact absent inside
  · exact Bool.false_ne_true (dark.symm.trans (blank' c behind))

theorem Pads.mem {c : Char} (pads : Pads text name) (member : c ∈ name) : c ∈ text := by
  obtain ⟨before, after, _, _, rfl⟩ := pads
  simp [member]

theorem trimLeft_append {before rest : List Char} (blank : IsBlank before)
    (dark : ∀ c ∈ rest.head?, isSpace c = false) : trimLeft (before ++ rest) = rest := by
  rw [trimLeft, List.dropWhile_append_of_pos blank]
  cases rest with
  | nil => rfl
  | cons c rest => exact List.dropWhile_cons_of_neg (by simp [dark c rfl])

theorem trimLeft_splits (cs : List Char) :
    ∃ before, IsBlank before ∧ cs = before ++ trimLeft cs ∧ ∀ c ∈ (trimLeft cs).head?, isSpace c = false := by
  refine ⟨cs.takeWhile isSpace, ?_, List.takeWhile_append_dropWhile.symm, ?_⟩
  · exact fun c member => List.mem_takeWhile_imp member
  · intro c first
    have dark := List.head?_dropWhile_not isSpace cs
    rw [trimLeft] at first
    rw [first] at dark
    simpa using dark

theorem Pads.trim_eq (pads : Pads text name) (trimmed : IsTrimmed name) : trim text = name := by
  obtain ⟨before, after, blank, blank', rfl⟩ := pads
  have ahead : trimLeft (before ++ (name ++ after)) = name ++ after := by
    refine trimLeft_append blank ?_
    rw [List.head?_append_of_ne_nil _ trimmed.nonempty]
    exact trimmed.first
  have behind : trimLeft (name ++ after).reverse = name.reverse := by
    rw [List.reverse_append]
    refine trimLeft_append (fun c member => blank' c (List.mem_reverse.mp member)) ?_
    rw [List.head?_reverse]
    exact trimmed.last
  rw [trim, List.append_assoc, ahead, behind, List.reverse_reverse]

/-- Nothing but white space is taken. -/
theorem pads_trim (text : List Char) : Pads text (trim text) := by
  obtain ⟨before, blank, split, _⟩ := trimLeft_splits text
  obtain ⟨after, blank', split', _⟩ := trimLeft_splits (trimLeft text).reverse
  refine ⟨before, after.reverse, blank, fun c member => blank' c (List.mem_reverse.mp member), ?_⟩
  rw [List.append_assoc, trim, ← List.reverse_append, ← split', List.reverse_reverse, ← split]

theorem isTrimmed_trim (some : trim text ≠ []) : IsTrimmed (trim text) := by
  obtain ⟨_, _, _, first⟩ := trimLeft_splits text
  obtain ⟨after, _, split, last⟩ := trimLeft_splits (trimLeft text).reverse
  refine ⟨some, ?_, ?_⟩
  · intro c head
    refine first c ?_
    have whole : trimLeft text = trim text ++ after.reverse := by
      rw [trim, ← List.reverse_append, ← split, List.reverse_reverse]
    rwa [whole, List.head?_append_of_ne_nil _ some]
  · rw [trim, List.getLast?_reverse]
    exact last

theorem trim_eq_nil_iff : trim text = [] ↔ IsBlank text := by
  constructor
  · intro none
    obtain ⟨before, after, blank, blank', split⟩ := pads_trim text
    rw [none, List.append_nil] at split
    rw [split]
    exact List.forall_mem_append.mpr ⟨blank, blank'⟩
  · intro blank
    have gone : trimLeft text = [] := List.dropWhile_eq_nil_iff.mpr blank
    rw [trim, gone]
    rfl

/-- The text is a name, with no white space at its ends, and white space around it. -/
structure Spells (text name : List Char) : Prop where
  trimmed : IsTrimmed name
  pads : Pads text name

theorem spells_iff : Spells text name ↔ name ≠ [] ∧ trim text = name := by
  constructor
  · rintro ⟨trimmed, pads⟩
    exact ⟨trimmed.nonempty, pads.trim_eq trimmed⟩
  · rintro ⟨some, rfl⟩
    exact ⟨isTrimmed_trim some, pads_trim text⟩

theorem exists_spells_iff : (∃ name : String, Spells text name.toList) ↔ ¬ IsBlank text := by
  rw [← trim_eq_nil_iff]
  constructor
  · rintro ⟨name, spells⟩ none
    obtain ⟨some, same⟩ := spells_iff.mp spells
    exact some (same.symm.trans none)
  · intro some
    refine ⟨String.ofList (trim text), ?_⟩
    rw [String.toList_ofList]
    exact spells_iff.mpr ⟨some, rfl⟩

/-! ### Division -/

theorem splitFirst?_append {c : Char} (absent : c ∉ front) (back : List Char) :
    splitFirst? c (front ++ c :: back) = some (front, back) := by
  induction front with
  | nil => simp [splitFirst?]
  | cons d front ih =>
    rw [List.mem_cons, not_or] at absent
    obtain ⟨other, later⟩ := absent
    rw [List.cons_append, splitFirst?, if_neg (Ne.symm other), ih later]
    rfl

theorem splits_of_splitFirst? {c : Char} (split : splitFirst? c cs = some (front, back)) :
    cs = front ++ c :: back ∧ c ∉ front := by
  induction cs generalizing front with
  | nil => cases split
  | cons d rest ih =>
    rw [splitFirst?] at split
    split at split
    next here =>
      obtain ⟨rfl, rfl⟩ := Prod.mk.inj (Option.some.inj split)
      exact ⟨here ▸ rfl, List.not_mem_nil⟩
    next other =>
      obtain ⟨⟨front', back'⟩, later, same⟩ := Option.map_eq_some_iff.mp split
      obtain ⟨rfl, rfl⟩ := Prod.mk.inj same
      obtain ⟨rfl, absent⟩ := ih later
      refine ⟨rfl, ?_⟩
      rw [List.mem_cons, not_or]
      exact ⟨Ne.symm other, absent⟩

theorem splitFirst?_eq_some_iff {c : Char} :
    splitFirst? c cs = some (front, back) ↔ cs = front ++ c :: back ∧ c ∉ front := by
  constructor
  · exact splits_of_splitFirst?
  · rintro ⟨rfl, absent⟩
    exact splitFirst?_append absent back

end RelayQuality
