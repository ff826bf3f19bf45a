import RelayQuality.Proofs.Quotation
import RelayQuality.Toml.Reader

/-!
# Lines of settings

Each line that is written for a setting is read as its name and its value, and lines with different names make the
table of these values.
-/

namespace RelayQuality.Toml

/-! ### Names -/

/-- A name that needs no quotes. -/
def IsName (name : String) : Prop := name.toList ≠ [] ∧ name.toList.all isBare = true

instance (name : String) : Decidable (IsName name) := inferInstanceAs (Decidable (_ ∧ _))

theorem ne_of_isBare {c d : Char} (bare : isBare c = true) (other : isBare d = false) : c ≠ d := by
  rintro rfl
  exact nomatch bare.symm.trans other

theorem isBare_of_isDigit {c : Char} (decimal : c.isDigit = true) : isBare c = true := by
  simp [isBare, Char.isAlphanum, decimal]

theorem not_isBlank_of_isBare {c : Char} (bare : isBare c = true) : isBlank c = false := by
  simp [isBlank, ne_of_isBare bare (d := ' ') rfl, ne_of_isBare bare (d := '\t') rfl]

theorem skipBlanks_cons {c : Char} (notBlank : isBlank c = false) (cs : List Char) :
    skipBlanks (c :: cs) = c :: cs :=
  List.dropWhile_cons_of_neg (by simp [notBlank])

theorem IsName.cons {name : String} (named : IsName name) :
    ∃ c cs, name.toList = c :: cs ∧ isBare c = true := by
  obtain ⟨some, bare⟩ := named
  obtain ⟨c, cs, same⟩ := List.exists_cons_of_ne_nil some
  exact ⟨c, cs, same, List.all_eq_true.mp bare c (same ▸ List.mem_cons_self)⟩

theorem IsName.append_ne {name : String} (named : IsName name) {c : Char} (other : isBare c = false)
    {rest more : List Char} : name.toList ++ rest ≠ c :: more := by
  obtain ⟨d, ds, same, bare⟩ := named.cons
  rw [same]
  intro eq
  exact ne_of_isBare bare other (List.cons.inj eq).1

theorem IsName.skipBlanks {name : String} (named : IsName name) (rest : List Char) :
    skipBlanks (name.toList ++ rest) = name.toList ++ rest := by
  obtain ⟨c, cs, same, bare⟩ := named.cons
  rw [same]
  exact skipBlanks_cons (not_isBlank_of_isBare bare) _

theorem IsName.lineEnd? {name : String} (named : IsName name) (rest : List Char) :
    lineEnd? (name.toList ++ rest) = none := by
  obtain ⟨c, cs, same, bare⟩ := named.cons
  have noComment : c ≠ '#' := ne_of_isBare bare rfl
  have noBreak : c ≠ '\n' := ne_of_isBare bare rfl
  have noReturn : c ≠ '\r' := ne_of_isBare bare rfl
  rw [Toml.lineEnd?, named.skipBlanks, same, List.cons_append]
  simp [skipComment, noComment, newline?, noBreak, noReturn]

/-! ### Numbers -/

theorem digits_head {n : Nat} (positive : 0 < n) : ∃ d ds, digits n = d :: ds ∧ d ≠ '0' := by
  have low : ∀ d, d < 10 → 0 < d → digitChar d ≠ '0' := by decide
  rw [digits]
  split
  next small => exact ⟨digitChar n, [], rfl, low n small positive⟩
  next large =>
    obtain ⟨d, ds, same, other⟩ := digits_head (n := n / 10) (by omega)
    exact ⟨d, ds ++ [digitChar (n % 10)], by rw [same]; rfl, other⟩
termination_by n

theorem moreDigits_line {ds : List Char} (decimal : ∀ d ∈ ds, d.isDigit = true) (rest : List Char) :
    moreDigits Char.isDigit (ds ++ '\n' :: rest) = (ds, '\n' :: rest) := by
  induction ds with
  | nil => rfl
  | cons d ds ih =>
    obtain ⟨first, others⟩ := List.forall_mem_cons.mp decimal
    rw [List.cons_append, moreDigits, if_pos first, ih others]
    rintro _ _ rfl
    exact nomatch first

theorem wholeDigits?_line (n : Nat) (rest : List Char) :
    wholeDigits? (digits n ++ '\n' :: rest) = some (digits n, '\n' :: rest) := by
  rcases Nat.eq_zero_or_pos n with rfl | positive
  · rw [digits]
    rfl
  · obtain ⟨d, ds, same, other⟩ := digits_head positive
    have decimal : ∀ c ∈ d :: ds, c.isDigit = true := fun c listed => isDigit_of_mem_digits (same ▸ listed)
    obtain ⟨first, others⟩ := List.forall_mem_cons.mp decimal
    rw [same, List.cons_append, wholeDigits?, digits?, if_pos first, moreDigits_line others]
    exact fun _ eq => other (List.cons.inj eq).1

theorem twoDigits?_line (low high : Nat) {ds : List Char} (decimal : ∀ d ∈ ds, d.isDigit = true) (rest : List Char) :
    twoDigits? low high (ds ++ '\n' :: rest) = none ∨
    ∃ n left, twoDigits? low high (ds ++ '\n' :: rest) = some (n, left ++ '\n' :: rest) ∧
      ∀ d ∈ left, d.isDigit = true := by
  match ds with
  | [] => cases rest <;> simp [twoDigits?]
  | [d] => simp [twoDigits?]
  | d :: e :: ds =>
    simp only [List.cons_append, twoDigits?]
    split
    · exact Or.inr ⟨_, ds, rfl, fun d listed => decimal d (by simp [listed])⟩
    · exact Or.inl rfl

theorem behind?_line {c : Char} (other : c.isDigit = false) (notBreak : c ≠ '\n') {ds : List Char}
    (decimal : ∀ d ∈ ds, d.isDigit = true) (rest : List Char) : behind? c (ds ++ '\n' :: rest) = none := by
  cases ds with
  | nil => exact if_neg notBreak
  | cons d ds =>
    refine if_neg ?_
    rintro rfl
    exact nomatch other.symm.trans (decimal c List.mem_cons_self)

theorem date?_line {ds : List Char} (decimal : ∀ d ∈ ds, d.isDigit = true) (rest : List Char) :
    date? (ds ++ '\n' :: rest) = none := by
  unfold date?
  -- behind digits come digits or the line break, never the dash of a date
  rcases twoDigits?_line 0 99 decimal rest with short | ⟨century, left, found, decimal⟩
  · rw [short]
    rfl
  rw [found, Option.bind_eq_bind, Option.bind_some]
  dsimp only
  rcases twoDigits?_line 0 99 decimal rest with short | ⟨year, left, found, decimal⟩
  · rw [short]
    rfl
  rw [found, Option.bind_some]
  dsimp only
  rw [behind?_line rfl (by decide) decimal]
  rfl

theorem time?_line {ds : List Char} (decimal : ∀ d ∈ ds, d.isDigit = true) (rest : List Char) :
    time? (ds ++ '\n' :: rest) = none := by
  unfold time?
  rcases twoDigits?_line 0 23 decimal rest with short | ⟨hour, left, found, decimal⟩
  · rw [short]
    rfl
  rw [found, Option.bind_eq_bind, Option.bind_some]
  dsimp only
  rw [behind?_line rfl (by decide) decimal]
  rfl

theorem dateTime?_line {ds : List Char} (decimal : ∀ d ∈ ds, d.isDigit = true) (rest : List Char) :
    dateTime? (ds ++ '\n' :: rest) = none := by
  rw [dateTime?, behindDateTime?, date?_line decimal, time?_line decimal]
  rfl

theorem digits_cons (n : Nat) : ∃ d ds, digits n = d :: ds ∧ d.isDigit = true := by
  obtain ⟨d, ds, same⟩ := List.exists_cons_of_ne_nil (digits_ne_nil n)
  exact ⟨d, ds, same, isDigit_of_mem_digits (same ▸ List.mem_cons_self)⟩

theorem digits_append_ne {c : Char} (other : c.isDigit = false) {n : Nat} {rest more : List Char} :
    digits n ++ rest ≠ c :: more := by
  obtain ⟨d, ds, same, decimal⟩ := digits_cons n
  rw [same]
  intro eq
  rw [(List.cons.inj eq).1, other] at decimal
  exact nomatch decimal

theorem signOf_digits (n : Nat) (rest : List Char) : signOf (digits n ++ rest) = (false, digits n ++ rest) := by
  unfold signOf
  split
  next same => exact absurd same (digits_append_ne rfl)
  next same => exact absurd same (digits_append_ne rfl)
  next => rfl

theorem float?_line (n : Nat) (rest : List Char) : float? (digits n ++ '\n' :: rest) = none := by
  unfold float?
  rw [signOf_digits]
  dsimp only
  split
  next same => exact absurd same (digits_append_ne rfl)
  next same => exact absurd same (digits_append_ne rfl)
  next =>
    rw [wholeDigits?_line]
    rfl

theorem integer?_line {n : Nat} (bounded : n ≤ Setting.largest) (rest : List Char) :
    integer? (digits n ++ '\n' :: rest) = some (.integer n, '\n' :: rest) := by
  have read : decimal? (digits n ++ '\n' :: rest) = some (.integer n, '\n' :: rest) := by
    have fits : bounded? n = some (.integer n) := by
      refine if_pos ?_
      unfold Setting.largest at bounded
      omega
    unfold decimal?
    rw [signOf_digits]
    dsimp only
    rw [wholeDigits?_line, Option.bind_eq_bind, Option.bind_some]
    dsimp only
    rw [if_neg Bool.false_ne_true, ofDigits_digits, fits]
    rfl
  have noBase : ∀ {base more}, base ≠ '\n' → digits n ++ '\n' :: rest ≠ '0' :: base :: more := by
    intro base more wrong same
    rcases Nat.eq_zero_or_pos n with rfl | positive
    · rw [digits] at same
      exact wrong (List.cons.inj (List.cons.inj same).2).1.symm
    · obtain ⟨d, ds, written, other⟩ := digits_head positive
      rw [written] at same
      exact other (List.cons.inj same).1
  unfold integer?
  split
  next same => exact absurd same (noBase (by decide))
  next same => exact absurd same (noBase (by decide))
  next same => exact absurd same (noBase (by decide))
  next => exact read

theorem bare?_digits {n : Nat} (bounded : n ≤ Setting.largest) (rest : List Char) :
    bare? (digits n ++ '\n' :: rest) = some (.integer n, '\n' :: rest) := by
  unfold bare?
  split
  next same => exact absurd same (digits_append_ne rfl)
  next same => exact absurd same (digits_append_ne rfl)
  next =>
    rw [dateTime?_line fun c listed => isDigit_of_mem_digits listed, float?_line, integer?_line bounded]
    rfl

/-! ### Values -/

def Setting.value : Setting → Value
  | boolean b => .boolean b
  | integer n => .integer n
  | text s => .string s

theorem quoted_head (cs : List Char) : ∃ rest, quoted cs = '"' :: rest ∨ quoted cs = '\'' :: rest := by
  unfold quoted
  cases Quotes.of (Shape.of cs)
  · exact ⟨_, Or.inl rfl⟩
  · exact ⟨_, Or.inr rfl⟩
  · exact ⟨_, Or.inl rfl⟩
  · exact ⟨_, Or.inr rfl⟩

theorem value?_bare {c : Char} (bare : isBare c = true) (fuel depth : Nat) (cs : List Char) :
    value? (fuel + 1) depth (c :: cs) = bare? (c :: cs) := by
  rw [value?]
  all_goals
    intro _ same
    exact ne_of_isBare bare rfl (List.cons.inj same).1

theorem value?_quoted (fuel depth : Nat) (cs rest : List Char) :
    value? (fuel + 1) depth (quoted cs ++ rest) =
      (string? (quoted cs ++ rest)).map fun (text, rest) => (.string text, rest) := by
  obtain ⟨body, same | same⟩ := quoted_head cs <;> rw [same, List.cons_append, value?]

theorem value?_written {s : Setting} {text : List Char} (written : s.written? = some text) (fuel depth : Nat)
    (rest : List Char) : value? (fuel + 1) depth (text ++ '\n' :: rest) = some (s.value, '\n' :: rest) := by
  cases s with
  | boolean b =>
    cases b <;> cases written
    · exact value?_bare rfl fuel depth _
    · exact value?_bare rfl fuel depth _
  | integer n =>
    rw [Setting.written?] at written
    split at written
    next bounded =>
      cases written
      obtain ⟨d, ds, same, decimal⟩ := digits_cons n
      rw [same, List.cons_append, value?_bare (isBare_of_isDigit decimal), ← List.cons_append, ← same]
      exact bare?_digits bounded rest
    next => exact nomatch written
  | text s =>
    cases written
    have ends : ('\n' :: rest).head? ≠ some '"' ∧ ('\n' :: rest).head? ≠ some '\'' := by simp
    rw [value?_quoted, string?_quoted ends, String.ofList_toList]
    rfl

theorem written_head {s : Setting} {text : List Char} (written : s.written? = some text) :
    ∃ d ds, text = d :: ds ∧ isBlank d = false := by
  cases s with
  | boolean b => cases b <;> cases written <;> exact ⟨_, _, rfl, rfl⟩
  | integer n =>
    rw [Setting.written?] at written
    split at written
    next =>
      cases written
      obtain ⟨d, ds, same, decimal⟩ := digits_cons n
      exact ⟨d, ds, same, not_isBlank_of_isBare (isBare_of_isDigit decimal)⟩
    next => exact nomatch written
  | text s =>
    cases written
    obtain ⟨body, same | same⟩ := quoted_head s.toList
    · exact ⟨'"', body, same, rfl⟩
    · exact ⟨'\'', body, same, rfl⟩

/-! ### Lines -/

theorem names?_line {name : String} (named : IsName name) {d : Char} (ends : isBare d = false) {c : Char}
    (other : c ≠ '.') {cs rest : List Char} (blanks : skipBlanks (d :: cs) = c :: rest) (fuel : Nat) :
    names? (fuel + 1) (name.toList ++ d :: cs) = some ([name], c :: rest) := by
  have bare := List.all_eq_true.mp named.2
  have taken : (name.toList ++ d :: cs).takeWhile isBare = name.toList := by
    rw [List.takeWhile_append_of_pos bare, List.takeWhile_cons_of_neg (by simp [ends]), List.append_nil]
  have dropped : (name.toList ++ d :: cs).dropWhile isBare = d :: cs := by
    rw [List.dropWhile_append_of_pos bare, List.dropWhile_cons_of_neg (by simp [ends])]
  have read : name? (name.toList ++ d :: cs) = some (name, d :: cs) := by
    obtain ⟨b, bs, same, _⟩ := named.cons
    unfold name?
    split
    next eq => exact absurd eq (named.append_ne rfl)
    next eq => exact absurd eq (named.append_ne rfl)
    next =>
      rw [taken, dropped, same]
      simp only [← same, String.ofList_toList]
  rw [names?, named.skipBlanks, read]
  dsimp only
  rw [blanks]
  split
  next same => exact absurd (List.cons.inj same).1 other
  next => rfl

theorem pair?_line {name : String} (named : IsName name) {s : Setting} {text : List Char}
    (written : s.written? = some text) (rest : List Char) :
    pair? (name.toList ++ ' ' :: '=' :: ' ' :: (text ++ '\n' :: rest)) =
      some (.pair ⟨[], name, s.value⟩, rest) := by
  have key : key? (name.toList ++ ' ' :: '=' :: ' ' :: (text ++ '\n' :: rest)) =
      some (([], name), '=' :: ' ' :: (text ++ '\n' :: rest)) := by
    rw [key?, deepest, names?_line named rfl (by decide) rfl]
    rfl
  have blank : skipBlanks (' ' :: (text ++ '\n' :: rest)) = text ++ '\n' :: rest := by
    obtain ⟨d, ds, rfl, notBlank⟩ := written_head written
    exact skipBlanks_cons notBlank _
  rw [pair?, key]
  simp only [Option.bind_eq_bind, Option.bind_some, behind?, if_true, blank, value?_written written]
  rfl

theorem line?_line {name : String} (named : IsName name) {s : Setting} {text : List Char}
    (written : s.written? = some text) (rest : List Char) :
    line? (name.toList ++ ' ' :: '=' :: ' ' :: (text ++ '\n' :: rest)) =
      some (.pair ⟨[], name, s.value⟩, rest) := by
  unfold line?
  rw [named.skipBlanks]
  split
  next eq => exact absurd eq (named.append_ne rfl)
  next eq => exact absurd eq (named.append_ne rfl)
  next =>
    rw [named.lineEnd?]
    exact pair?_line named written rest

theorem line?_header {name : String} (named : IsName name) (rest : List Char) :
    line? ('[' :: (name.toList ++ ']' :: '\n' :: rest)) = some (.header [name] false, rest) := by
  have read : header? false (name.toList ++ ']' :: '\n' :: rest) = some (.header [name] false, rest) := by
    rw [header?, deepest, names?_line named rfl (by decide) rfl]
    rfl
  have start : skipBlanks ('[' :: (name.toList ++ ']' :: '\n' :: rest)) = '[' :: (name.toList ++ ']' :: '\n' :: rest) :=
    skipBlanks_cons rfl _
  unfold line?
  rw [start]
  split
  next eq => exact absurd (List.cons.inj eq).2 (named.append_ne rfl)
  next eq =>
    rw [← (List.cons.inj eq).2]
    exact read
  next wrong => exact absurd rfl (wrong _)

theorem lines?_cons {cs rest : List Char} {line : Line} (goesOn : cs ≠ []) (read : line? cs = some (line, rest))
    (fuel : Nat) : lines? (fuel + 1) cs = (lines? fuel rest).map (line :: ·) := by
  rw [lines?, read]
  exact goesOn

theorem assignments?_cons {entry : String × Setting} {settings : List (String × Setting)} {out : List Char}
    (written : assignments? (entry :: settings) = some out) :
    ∃ text lines, entry.2.written? = some text ∧ assignments? settings = some lines ∧
      out = entry.1.toList ++ ' ' :: '=' :: ' ' :: (text ++ '\n' :: lines) := by
  rw [assignments?] at written
  split at written
  next line lines first others =>
    obtain ⟨text, value, rfl⟩ := Option.map_eq_some_iff.mp first
    cases written
    exact ⟨text, lines, value, others, by simp⟩
  next => exact nomatch written

def settingPair (entry : String × Setting) : Pair := ⟨[], entry.1, entry.2.value⟩

theorem lines?_assignments {settings : List (String × Setting)} {out : List Char}
    (written : assignments? settings = some out) (named : ∀ entry ∈ settings, IsName entry.1) (fuel : Nat)
    (rest : List Char) :
    lines? (settings.length + fuel) (out ++ rest) =
      (lines? fuel rest).map ((settings.map settingPair).map Line.pair ++ ·) := by
  -- each line takes one unit of fuel
  induction settings generalizing out with
  | nil =>
    cases written
    simp
  | cons entry settings ih =>
    obtain ⟨text, lines, value, others, rfl⟩ := assignments?_cons written
    obtain ⟨first, names⟩ := List.forall_mem_cons.mp named
    have joined : entry.1.toList ++ ' ' :: '=' :: ' ' :: (text ++ '\n' :: lines) ++ rest =
        entry.1.toList ++ ' ' :: '=' :: ' ' :: (text ++ '\n' :: (lines ++ rest)) := by simp
    have more : (entry :: settings).length + fuel = settings.length + fuel + 1 := by
      rw [List.length_cons]
      omega
    rw [joined, more, lines?_cons (by simp) (line?_line first value _), ih others names, Option.map_map]
    rfl

theorem length_assignments? {settings : List (String × Setting)} {out : List Char}
    (written : assignments? settings = some out) : settings.length ≤ out.length := by
  induction settings generalizing out with
  | nil => exact Nat.zero_le _
  | cons entry settings ih =>
    obtain ⟨text, lines, _, others, rfl⟩ := assignments?_cons written
    have shorter := ih others
    simp only [List.length_append, List.length_cons]
    omega

/-! ### Tables -/

theorem get?_eq_none {es : Entries} {name : String} (new : name ∉ es.map Prod.fst) : es.get? name = none := by
  refine Option.map_eq_none_iff.mpr (List.find?_eq_none.mpr fun entry listed same => new ?_)
  exact List.mem_map.mpr ⟨entry, listed, beq_iff_eq.mp same⟩

def settingEntries (settings : List (String × Setting)) : Entries :=
  settings.map fun entry => (entry.1, .leaf entry.2.value)

theorem fill?_settings {settings : List (String × Setting)} {es : Entries}
    (distinct : (es.map Prod.fst ++ settings.map Prod.fst).Nodup) :
    fill? (settings.map settingPair) es = some (es ++ settingEntries settings) := by
  induction settings generalizing es with
  | nil => simp [fill?, settingEntries]
  | cons entry settings ih =>
    have new : entry.1 ∉ es.map Prod.fst := fun listed =>
      (List.nodup_append.mp distinct).2.2 _ listed _ List.mem_cons_self rfl
    have put : es.put? [] entry.1 entry.2.value = some (es ++ [(entry.1, .leaf entry.2.value)]) := by
      rw [Entries.put?, get?_eq_none new]
      rfl
    have rest : fill? (settings.map settingPair) (es ++ [(entry.1, .leaf entry.2.value)]) =
        some (es ++ [(entry.1, .leaf entry.2.value)] ++ settingEntries settings) := ih (by simpa using distinct)
    unfold fill? at rest ⊢
    rw [List.map_cons, List.foldlM_cons, settingPair]
    simp only [put, Option.bind_eq_bind, Option.bind_some, rest]
    simp [settingEntries]

theorem membersOf_eq (es : Entries) : membersOf es = es.map fun entry => (entry.1, entry.2.value) := by
  induction es with
  | nil => rfl
  | cons entry es ih =>
    obtain ⟨name, e⟩ := entry
    rw [membersOf, ih]
    rfl

def settingMembers (settings : List (String × Setting)) : List (String × Value) :=
  settings.map fun entry => (entry.1, entry.2.value)

theorem membersOf_settingEntries (settings : List (String × Setting)) :
    membersOf (settingEntries settings) = settingMembers settings := by
  simp [membersOf_eq, settingEntries, settingMembers, Entry.value]

theorem divided_pairs (pairs : List Pair) (lines : List Line) :
    divided (pairs.map Line.pair ++ lines) = (pairs ++ (divided lines).1, (divided lines).2) := by
  induction pairs with
  | nil => rfl
  | cons p pairs ih =>
    rw [List.map_cons, List.cons_append, divided, ih]
    rfl

/-! ### Files -/

theorem skipMark_assignments {settings : List (String × Setting)} {out : List Char}
    (written : assignments? settings = some out) (named : ∀ entry ∈ settings, IsName entry.1) (rest : List Char) :
    skipMark (out ++ '\n' :: rest) = out ++ '\n' :: rest := by
  cases settings with
  | nil =>
    cases written
    rfl
  | cons entry settings =>
    obtain ⟨text, lines, _, _, rfl⟩ := assignments?_cons written
    rw [List.append_assoc]
    unfold skipMark
    split
    next eq => exact absurd eq ((named entry List.mem_cons_self).append_ne rfl)
    next => rfl

section

variable {own inner : List (String × Setting)} {name : String} {first second : List Char}

theorem lines?_written (ownWritten : assignments? own = some first) (innerWritten : assignments? inner = some second)
    (ownNamed : ∀ entry ∈ own, IsName entry.1) (innerNamed : ∀ entry ∈ inner, IsName entry.1) (named : IsName name)
    {fuel : Nat} (enough : own.length + inner.length + 2 ≤ fuel) :
    lines? fuel (first ++ '\n' :: '[' :: (name.toList ++ ']' :: '\n' :: second)) =
      some ((own.map settingPair).map Line.pair ++ .blank :: .header [name] false ::
        (inner.map settingPair).map Line.pair) := by
  obtain ⟨spare, rfl⟩ := Nat.exists_eq_add_of_le enough
  have under := lines?_assignments innerWritten innerNamed spare []
  rw [List.append_nil, lines?, Option.map_some, List.append_nil] at under
  have more : own.length + inner.length + 2 + spare = own.length + (inner.length + spare + 1 + 1) := by omega
  rw [more, lines?_assignments ownWritten ownNamed, lines?_cons (by simp) rfl,
    lines?_cons (by simp) (line?_header named second), under]
  rfl

theorem assemble?_written (ownDistinct : (own.map Prod.fst ++ [name]).Nodup)
    (innerDistinct : (inner.map Prod.fst).Nodup) :
    (assemble? ((own.map settingPair).map Line.pair ++ .blank :: .header [name] false ::
        (inner.map settingPair).map Line.pair)).map membersOf =
      some (settingMembers own ++ [(name, .table (settingMembers inner))]) := by
  obtain ⟨distinct, _, apart⟩ := List.nodup_append.mp ownDistinct
  have filled : fill? (own.map settingPair) [] = some (settingEntries own) := fill?_settings distinct
  have under : fill? (inner.map settingPair) [] = some (settingEntries inner) := fill?_settings innerDistinct
  have new : (settingEntries own).get? name = none := by
    refine get?_eq_none fun listed => apart name ?_ name List.mem_cons_self rfl
    simpa [settingEntries] using listed
  have defined : (settingEntries own).define? false (fill? (inner.map settingPair)) [name] =
      some (settingEntries own ++ [(name, .table .stated (settingEntries inner))]) := by
    rw [Entries.define?, under, Option.map_some, Entries.set, new]
    · rfl
    · exact new
  have sections : divided (.blank :: .header [name] false :: (inner.map settingPair).map Line.pair) =
      ([], [⟨[name], false, inner.map settingPair⟩]) := by
    have noHeader := divided_pairs (inner.map settingPair) []
    rw [List.append_nil] at noHeader
    rw [divided, divided, noHeader, divided, List.append_nil]
  have assembled : assemble? ((own.map settingPair).map Line.pair ++ .blank :: .header [name] false ::
      (inner.map settingPair).map Line.pair) =
        some (settingEntries own ++ [(name, .table .stated (settingEntries inner))]) := by
    rw [assemble?, divided_pairs, sections]
    simp only [List.append_nil, filled, Option.bind_eq_bind, Option.bind_some, List.foldlM_cons, List.foldlM_nil,
      defined, Option.pure_def]
  rw [assembled, Option.map_some, membersOf_eq, List.map_append, ← membersOf_eq, membersOf_settingEntries]
  simp [Entry.value, membersOf_settingEntries]

/-- Settings and settings under a header are read as they were written. -/
theorem read?_written (ownWritten : assignments? own = some first) (innerWritten : assignments? inner = some second)
    (ownNamed : ∀ entry ∈ own, IsName entry.1) (innerNamed : ∀ entry ∈ inner, IsName entry.1) (named : IsName name)
    (ownDistinct : (own.map Prod.fst ++ [name]).Nodup) (innerDistinct : (inner.map Prod.fst).Nodup) :
    read? (String.ofList (first ++ headerLine name ++ second)) =
      some (settingMembers own ++ [(name, .table (settingMembers inner))]) := by
  have text : first ++ headerLine name ++ second =
      first ++ '\n' :: '[' :: (name.toList ++ ']' :: '\n' :: second) := by simp [headerLine]
  have enough : own.length + inner.length + 2 ≤
      (first ++ '\n' :: '[' :: (name.toList ++ ']' :: '\n' :: second)).length := by
    have before := length_assignments? ownWritten
    have after := length_assignments? innerWritten
    simp only [List.length_append, List.length_cons]
    omega
  rw [read?, String.toList_ofList, text, skipMark_assignments ownWritten ownNamed]
  rw [lines?_written ownWritten innerWritten ownNamed innerNamed named enough]
  exact assemble?_written ownDistinct innerDistinct

end

end RelayQuality.Toml
