/-!
# Maps from public keys

A `KeyMap` lists pairs of a key and a value, each key once, in the order of first insertion.
`get?_insert`, `get?_erase` and `get?_filter` say what the operations do to look-up.
-/

namespace RelayQuality

structure KeyMap (α : Type) where
  entries : List (String × α)
  nodup : (entries.map Prod.fst).Nodup

namespace KeyMap

variable {α : Type}

theorem ext {m n : KeyMap α} (h : m.entries = n.entries) : m = n := by
  cases m; cases n; simp_all

def empty : KeyMap α := ⟨[], List.nodup_nil⟩

instance : Inhabited (KeyMap α) := ⟨empty⟩

/-- The keys in order of first insertion. -/
def keys (m : KeyMap α) : List String := m.entries.map Prod.fst

/-- The values in order of first insertion of their keys. -/
def values (m : KeyMap α) : List α := m.entries.map Prod.snd

def size (m : KeyMap α) : Nat := m.entries.length

def isEmpty (m : KeyMap α) : Bool := m.entries.isEmpty

def get? (m : KeyMap α) (key : String) : Option α :=
  (m.entries.find? (·.1 == key)).map Prod.snd

def replace (key : String) (value : α) (entry : String × α) : String × α :=
  if entry.1 = key then (key, value) else entry

theorem map_fst_replace (key : String) (value : α) (entries : List (String × α)) :
    (entries.map (replace key value)).map Prod.fst = entries.map Prod.fst := by
  rw [List.map_map]
  apply List.map_congr_left
  intro entry _
  simp only [Function.comp, replace]
  split <;> simp_all

/-- The map with a value for a key, in place if the key is known, else at the end. -/
def insert (m : KeyMap α) (key : String) (value : α) : KeyMap α :=
  if known : key ∈ m.entries.map Prod.fst then
    ⟨m.entries.map (replace key value), by rw [map_fst_replace]; exact m.nodup⟩
  else
    ⟨m.entries ++ [(key, value)], by
      rw [List.map_append]
      refine List.nodup_append.mpr ⟨m.nodup, by simp, ?_⟩
      intro a ha b hb
      simp only [List.map_cons, List.map_nil, List.mem_singleton] at hb
      rintro rfl
      exact known (hb ▸ ha)⟩

def insertAll (m : KeyMap α) (keys : List String) (value : α) : KeyMap α :=
  keys.foldl (fun m key => m.insert key value) m

def filter (m : KeyMap α) (test : String → α → Bool) : KeyMap α :=
  ⟨m.entries.filter fun entry => test entry.1 entry.2, by
    exact m.nodup.sublist (List.filter_sublist.map _)⟩

def erase (m : KeyMap α) (key : String) : KeyMap α := m.filter fun k _ => k != key

/-! ### Look-up after an operation -/

@[simp] theorem get?_empty (key : String) : (empty : KeyMap α).get? key = none := rfl

theorem isSome_get? {m : KeyMap α} {key : String} : (m.get? key).isSome ↔ key ∈ m.keys := by
  simp [get?, keys, List.find?_isSome]

theorem find?_replace (key key' : String) (value : α) (entries : List (String × α)) :
    ((entries.map (replace key value)).find? (·.1 == key')).map Prod.snd =
      if key' = key ∧ key ∈ entries.map Prod.fst then some value
      else (entries.find? (·.1 == key')).map Prod.snd := by
  induction entries with
  | nil => simp
  | cons entry rest ih =>
    rw [List.map_cons, List.find?_cons, List.find?_cons]
    by_cases same : entry.1 = key
    · subst same
      by_cases here : key' = entry.1
      · subst here; simp [replace]
      · have there : (entry.1 == key') = false := beq_eq_false_iff_ne.mpr fun h => here h.symm
        simp only [replace, if_true, there, ih, here, false_and, if_false]
    · have unlike : ¬ key = entry.1 := fun h => same h.symm
      simp only [replace, same, if_false]
      by_cases here : entry.1 = key'
      · have other : ¬ key' = key := fun h => same (here.trans h)
        simp [here, other]
      · have there : (entry.1 == key') = false := beq_eq_false_iff_ne.mpr here
        rw [there, ih]
        simp only [List.map_cons, List.mem_cons, unlike, false_or]

theorem get?_insert (m : KeyMap α) (key key' : String) (value : α) :
    (m.insert key value).get? key' = if key' = key then some value else m.get? key' := by
  unfold insert get?
  split
  next known =>
    rw [find?_replace]
    simp [known]
  next unknown =>
    simp only [List.find?_append]
    by_cases same : key' = key
    · subst same
      have absent : m.entries.find? (·.1 == key') = none := by
        rw [List.find?_eq_none]
        intro entry member found
        exact unknown (List.mem_map.mpr ⟨entry, member, beq_iff_eq.mp found⟩)
      simp [absent]
    · have other : (key == key') = false := by
        rw [beq_eq_false_iff_ne]; exact fun h => same h.symm
      simp [same, other]

theorem get?_insertAll (m : KeyMap α) (keys : List String) (value : α) (key : String) :
    (m.insertAll keys value).get? key = if key ∈ keys then some value else m.get? key := by
  induction keys generalizing m with
  | nil => simp [insertAll]
  | cons first rest ih =>
    have split : m.insertAll (first :: rest) value = (m.insert first value).insertAll rest value := rfl
    rw [split, ih, get?_insert]
    by_cases later : key ∈ rest <;> by_cases same : key = first <;> simp [later, same]

/-- A key that is listed once has at most one entry. -/
theorem find?_filter_fst {entries : List (String × α)} (once : (entries.map Prod.fst).Nodup)
    (test : String → α → Bool) (key : String) :
    ((entries.filter fun e => test e.1 e.2).find? (·.1 == key)).map Prod.snd =
      ((entries.find? (·.1 == key)).map Prod.snd).filter (test key) := by
  induction entries with
  | nil => rfl
  | cons entry rest ih =>
    simp only [List.map_cons, List.nodup_cons] at once
    simp only [List.filter_cons, List.find?_cons]
    by_cases here : entry.1 = key
    · subst here
      by_cases kept : test entry.1 entry.2 = true
      · simp [kept, Option.filter]
      · have absent : (rest.filter fun e => test e.1 e.2).find? (·.1 == entry.1) = none := by
          rw [List.find?_eq_none]
          intro e member found
          exact once.1 (List.mem_map.mpr ⟨e, (List.mem_filter.mp member).1, beq_iff_eq.mp found⟩)
        simp [kept, absent, Option.filter]
    · have other : (entry.1 == key) = false := beq_eq_false_iff_ne.mpr here
      by_cases kept : test entry.1 entry.2 = true
      · simp only [kept, if_true, List.find?_cons, other]; exact ih once.2
      · rw [if_neg kept, other]; exact ih once.2

theorem get?_filter (m : KeyMap α) (test : String → α → Bool) (key : String) :
    (m.filter test).get? key = (m.get? key).filter (test key) :=
  find?_filter_fst m.nodup test key

theorem get?_erase (m : KeyMap α) (key key' : String) :
    (m.erase key).get? key' = if key' = key then none else m.get? key' := by
  rw [erase, get?_filter]
  by_cases same : key' = key
  · subst same; cases m.get? key' <;> simp [Option.filter]
  · cases m.get? key' <;> simp [same, Option.filter]

end KeyMap

end RelayQuality
