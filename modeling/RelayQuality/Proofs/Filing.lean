import Mathlib.Data.String.Basic
import RelayQuality.Files

/-!
# Filing

What is written into a directory is read under the path of the directory and the name. Nothing that is a directory
stops being one.
-/

namespace RelayQuality.Files

variable {f g : Files}

/-- The name of a file in a directory. -/
structure IsFileName (name : String) : Prop where
  notEmpty : name ≠ ""
  notHere : name ≠ "."
  notUp : name ≠ ".."
  single : '/' ∉ name.toList

/-! ### Paths -/

theorem names_append {name : String} (proper : IsFileName name) (directory : String) :
    names (directory ++ "/" ++ name) = names directory ++ [name] := by
  have last : name.toList.splitOnP (· == '/') = [name.toList] := by
    refine List.splitOnP_eq_singleton fun c listed => ?_
    rw [beq_eq_false_iff_ne]
    rintro rfl
    exact proper.single listed
  have text : (directory ++ "/" ++ name).toList = directory.toList ++ '/' :: name.toList := by simp
  rw [names, names, String.splitToList_of_valid, String.splitToList_of_valid, text, List.splitOnP_append_cons _ _ rfl,
    last, List.map_append, List.filter_append]
  simp [proper.notEmpty, proper.notHere]

theorem endsWith_iff {s tail : String} : s.endsWith tail = true ↔ tail.toList <:+ s.toList := by
  rw [String.endsWith_eq_endsWith_toSlice, String.Slice.endsWith_string_iff, String.copy_toSlice]

theorem asksDirectory_append {name : String} (proper : IsFileName name) (directory : String) :
    asksDirectory (directory ++ "/" ++ name) = false := by
  have text : (directory ++ "/" ++ name).toList = directory.toList ++ '/' :: name.toList := by simp
  have ends : name.toList <:+ (directory ++ "/" ++ name).toList := ⟨directory.toList ++ ['/'], by simp⟩
  have notEmpty : name.toList ≠ [] := fun none => proper.notEmpty (String.toList_eq_nil_iff.mp none)
  have notHere : name.toList ≠ ['.'] := fun here => proper.notHere (String.toList_inj.mp here)
  rw [asksDirectory, Bool.or_eq_false_iff, ← Bool.not_eq_true, ← Bool.not_eq_true, endsWith_iff, endsWith_iff]
  constructor
  · intro asked
    rcases List.suffix_or_suffix_of_suffix asked ends with inside | outside
    · exact proper.single (inside.mem List.mem_cons_self)
    · rcases List.suffix_cons_iff.mp outside with same | short
      · exact proper.single (same ▸ List.mem_cons_self)
      · exact notEmpty (List.suffix_nil.mp short)
  · intro asked
    rcases List.suffix_or_suffix_of_suffix asked ends with inside | outside
    · exact proper.single (inside.mem List.mem_cons_self)
    · rcases List.suffix_cons_iff.mp outside with same | short
      · exact proper.single (same ▸ List.mem_cons_self)
      · rcases List.suffix_cons_iff.mp short with same | short
        · exact notHere same
        · exact notEmpty (List.suffix_nil.mp short)

theorem isRelative_append {directory : String} (notEmpty : directory ≠ "") (relative : directory.startsWith "/" = false)
    (name : String) :
    ((directory ++ "/" ++ name).isEmpty || (directory ++ "/" ++ name).startsWith "/") = false := by
  obtain ⟨c, cs, same⟩ := List.exists_cons_of_ne_nil fun none => notEmpty (String.toList_eq_nil_iff.mp none)
  rw [← Bool.not_eq_true, String.startsWith_string_iff, same] at relative
  rw [Bool.or_eq_false_iff, String.isEmpty_eq_false_iff, ← Bool.not_eq_true, String.startsWith_string_iff,
    String.toList_append, String.toList_append, same]
  constructor
  · intro empty
    have none := congrArg String.toList empty
    simp at none
  · rintro ⟨rest, whole⟩
    exact relative ⟨cs, congrArg (· :: cs) (List.cons.inj whole).1⟩

/-! ### Directories -/

theorem follow_missing {place way : List String} {source : Source} (stuck : f.follow place way = .error source) :
    ∃ reason, source = .missing reason := by
  induction way generalizing place with
  | nil => exact nomatch stuck
  | cons name rest ih =>
    rw [follow] at stuck
    split at stuck
    · exact ih stuck
    split at stuck
    · cases stuck
      exact ⟨_, rfl⟩
    · cases stuck
      exact ⟨_, rfl⟩

theorem follow_keeps (kept : ∀ place, f.isDirectory place = true → g.isDirectory place = true)
    {place way last : List String} (found : f.follow place way = .ok last) : g.follow place way = .ok last := by
  induction way generalizing place with
  | nil => exact found
  | cons name rest ih =>
    rw [follow] at found ⊢
    split at found
    next directory =>
      rw [if_pos (kept place directory)]
      exact ih found
    next =>
      split at found
      · exact nomatch found
      · exact nomatch found

theorem follow_append {place way last : List String} (found : f.follow place way = .ok last) (more : List String) :
    f.follow place (way ++ more) = f.follow last more := by
  induction way generalizing place with
  | nil =>
    cases found
    rfl
  | cons name rest ih =>
    rw [List.cons_append, follow]
    rw [follow] at found
    split at found
    next directory =>
      rw [if_pos directory]
      exact ih found
    next =>
      split at found
      · exact nomatch found
      · exact nomatch found

/-- A path that leads to something unreadable leads to a directory. -/
theorem read_unreadable {path reason : String} (unreadable : f.read path = .unreadable reason) :
    path ≠ "" ∧ path.startsWith "/" = false ∧
    ∃ place, f.follow [] (names path) = .ok place ∧ f.isDirectory place = true := by
  unfold read at unreadable
  split at unreadable
  next => exact nomatch unreadable
  next relative =>
    rw [Bool.or_eq_true, not_or, Bool.not_eq_true, Bool.not_eq_true, String.isEmpty_eq_false_iff] at relative
    refine ⟨relative.1, relative.2, ?_⟩
    split at unreadable
    next source stuck =>
      obtain ⟨_, rfl⟩ := follow_missing stuck
      exact nomatch unreadable
    next place found =>
      refine ⟨place, found, ?_⟩
      unfold at? at unreadable
      cases standing : f.file? place with
      | some content =>
        rw [standing] at unreadable
        dsimp only at unreadable
        split at unreadable
        · exact nomatch unreadable
        · exact nomatch unreadable
      | none =>
        rw [standing] at unreadable
        dsimp only at unreadable
        by_contra wrong
        rw [if_neg wrong] at unreadable
        exact nomatch unreadable

/-! ### Writing -/

/-- The files after one was written at a place. -/
def put (f : Files) (place : List String) (content : String) : Files :=
  ⟨f.entries.filter (·.1 != place) ++ [(place, content)]⟩

theorem file?_put (f : Files) (place : List String) (content : String) :
    (f.put place content).file? place = some content := by
  have old : (f.entries.filter (·.1 != place)).find? (·.1 == place) = none := by
    refine List.find?_eq_none.mpr fun entry listed same => ?_
    have other := (List.mem_filter.mp listed).2
    rw [bne, same] at other
    exact nomatch other
  rw [file?, put, List.find?_append, old]
  simp

theorem isDirectory_put {place : List String} (content : String) (file : List String)
    (directory : f.isDirectory place = true) : (f.put file content).isDirectory place = true := by
  simp only [isDirectory, Bool.or_eq_true, List.any_eq_true] at directory ⊢
  rcases directory with top | ⟨entry, listed, below⟩
  · exact Or.inl top
  · refine Or.inr ?_
    by_cases same : entry.1 = file
    · exact ⟨(file, content), by simp [put], same ▸ below⟩
    · exact ⟨entry, by simp [put, listed, same], below⟩

theorem write_ok {directory name content : String} (written : f.write directory name content = .ok g) :
    directory ≠ "" ∧ directory.startsWith "/" = false ∧
    ∃ place, f.follow [] (names directory) = .ok place ∧ f.isDirectory place = true ∧
      g = f.put (place ++ [name]) content := by
  unfold write at written
  split at written
  next reason unreadable =>
    obtain ⟨notEmpty, relative, place, found, isDirectory⟩ := read_unreadable unreadable
    rw [found] at written
    cases written
    exact ⟨notEmpty, relative, place, found, isDirectory, rfl⟩
  · exact nomatch written
  · exact nomatch written

/-- What is written into a directory is read under its path. -/
theorem read_write {directory name content : String} (proper : IsFileName name)
    (written : f.write directory name content = .ok g) :
    g.read (directory ++ "/" ++ name) = .text content := by
  obtain ⟨notEmpty, relative, place, found, isDirectory, rfl⟩ := write_ok written
  have follows : (f.put (place ++ [name]) content).follow [] (names directory ++ [name]) = .ok (place ++ [name]) := by
    have kept := follow_keeps (fun _ => isDirectory_put content (place ++ [name])) found
    rw [follow_append kept, follow, if_pos (isDirectory_put content _ isDirectory), if_neg proper.notUp]
    rfl
  rw [read, isRelative_append notEmpty relative, if_neg Bool.false_ne_true, names_append proper, follows]
  simp only [at?, file?_put, asksDirectory_append proper, if_neg Bool.false_ne_true]

/-- A file can be written into the working directory. -/
theorem write_here (notFile : f.file? [] = none) (name content : String) :
    f.write "." name content = .ok (f.put [name] content) := by
  have here : names "." = [] := by
    rw [names, String.splitToList_of_valid]
    rfl
  have relative : ".".startsWith "/" = false := by
    rw [← Bool.not_eq_true, String.startsWith_string_iff]
    decide
  have standing : f.at? [] = .directory := by
    rw [at?, notFile]
    rfl
  have directory : f.read "." = .directory := by
    rw [read, relative, here]
    simp only [follow, standing]
    rfl
  rw [write, directory, Source.directory, here]
  rfl

end RelayQuality.Files
