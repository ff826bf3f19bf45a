import RelayQuality.Toml.Printer
import RelayQuality.Toml.Quoted

/-!
# Quotation

A text is read from its quotes as it was put into them. Between double quotes this is so for every text, character by
character; in a block, quotes that belong to the text stand one or two in a row, also in front of the closing ones.
-/

namespace RelayQuality.Toml

/-! ### Escapes -/

theorem isPlain_of_not_isControl {c : Char} (kept : isControl c = false) (other : c ≠ '\n') : isPlain c = true := by
  by_cases tab : c = '\t'
  · simp [isPlain, tab]
  · simpa [isControl, isPlain, tab, other] using kept

theorem escaped?_numbered {c : Char} (control : isControl c = true) :
    escaped? ['0', '0', upperHexDigit (c.toNat / 16), upperHexDigit (c.toNat % 16)] = some c := by
  have small : c.toNat < 128 := by
    simp only [isControl, Bool.and_eq_true, Bool.or_eq_true, beq_iff_eq, decide_eq_true_eq] at control
    omega
  have zero : hexValue? '0' = some 0 := by decide
  have high := hexValue?_upperHexDigit (d := c.toNat / 16) (by omega)
  have low := hexValue?_upperHexDigit (d := c.toNat % 16) (by omega)
  have number : ofHex? ['0', '0', upperHexDigit (c.toNat / 16), upperHexDigit (c.toNat % 16)] = some c.toNat := by
    simp only [ofHex?, List.foldlM_cons, List.foldlM_nil, zero, high, low, Option.map_some, Option.bind_eq_bind,
      Option.bind_some, Option.pure_def, Option.some.injEq]
    omega
  simp only [escaped?, number]
  rw [if_pos (by omega), Char.ofNat_toNat]

/-- What is written between double quotes for a character other than them. -/
def spelled (block : Bool) : Char → List Char
  | '\x08' => ['\\', 'b']
  | '\t' => ['\\', 't']
  | '\n' => if block then ['\n'] else ['\\', 'n']
  | '\x0c' => ['\\', 'f']
  | '\r' => ['\\', 'r']
  | '\\' => ['\\', '\\']
  | c => if isControl c then numbered c else [c]

theorem escapedFrom_cons {block : Bool} {allowed run : Nat} {c : Char} (other : c ≠ '"') (rest : List Char) :
    escapedFrom block allowed run (c :: rest) = spelled block c ++ escapedFrom block allowed 0 rest := by
  unfold spelled
  split <;> simp [escapedFrom, *]

theorem spelled_cases (block : Bool) (c : Char) :
    (∃ letter, spelled block c = ['\\', letter] ∧ simpleEscape? letter = some c) ∨
    (spelled block c = numbered c ∧ isControl c = true) ∨
    (spelled block c = ['\n'] ∧ block = true ∧ c = '\n') ∨
    (spelled block c = [c] ∧ isPlain c = true ∧ c ≠ '\\' ∧ c ≠ '\n' ∧ c ≠ '\r') := by
  unfold spelled
  split
  · exact Or.inl ⟨'b', rfl, rfl⟩
  · exact Or.inl ⟨'t', rfl, rfl⟩
  · cases block
    · exact Or.inl ⟨'n', rfl, rfl⟩
    · exact Or.inr (Or.inr (Or.inl ⟨rfl, rfl, rfl⟩))
  · exact Or.inl ⟨'f', rfl, rfl⟩
  · exact Or.inl ⟨'r', rfl, rfl⟩
  · exact Or.inl ⟨'\\', rfl, rfl⟩
  next notBreak _ notReturn notBackslash =>
    cases control : isControl c with
    | true => exact Or.inr (Or.inl ⟨rfl, rfl⟩)
    | false =>
      have plain := isPlain_of_not_isControl control notBreak
      exact Or.inr (Or.inr (Or.inr ⟨rfl, plain, notBackslash, notBreak, notReturn⟩))

theorem spelled_head (block : Bool) {c : Char} (other : c ≠ '"') :
    ∃ d more, spelled block c = d :: more ∧ d ≠ '"' ∧ d ≠ '\r' ∧ (d = '\n' → c = '\n') := by
  rcases spelled_cases block c with ⟨letter, same, _⟩ | ⟨same, _⟩ | ⟨same, _, line⟩ | ⟨same, _, _, _, notReturn⟩
  · exact ⟨'\\', _, same, by decide, by decide, fun newline => nomatch newline⟩
  · exact ⟨'\\', _, same, by decide, by decide, fun newline => nomatch newline⟩
  · exact ⟨'\n', _, same, by decide, by decide, fun _ => line⟩
  · exact ⟨c, _, same, other, notReturn, id⟩

theorem simpleEscape?_some {letter c : Char} (reads : simpleEscape? letter = some c) :
    letter ∈ ['b', 't', 'n', 'f', 'r', '"', '\\'] := by
  unfold simpleEscape? at reads
  split at reads
  case h_8 => cases reads
  all_goals decide

theorem isLineRest_cons {c : Char} (notBlank : isBlank c = false) (notBreak : c ≠ '\n') (notReturn : c ≠ '\r')
    (rest : List Char) : isLineRest (c :: rest) = false := by
  simp [isLineRest, skipBlanks, notBlank, newline?, notBreak, notReturn]

theorem basic?_letter {letter c : Char} (reads : simpleEscape? letter = some c) (rest : List Char) :
    basic? ('\\' :: letter :: rest) = before (some c) (basic? rest) := by
  have listed := simpleEscape?_some reads
  rw [← reads]
  rw [basic?] <;> grind

theorem blockBasic?_letter {letter c : Char} (reads : simpleEscape? letter = some c) (rest : List Char) :
    blockBasic? false ('\\' :: letter :: rest) = before (some c) (blockBasic? false rest) := by
  have listed := simpleEscape?_some reads
  have more : isLineRest (letter :: rest) = false := by
    refine isLineRest_cons ?_ ?_ ?_ rest <;> grind [isBlank]
  rw [← reads]
  rw [blockBasic?] <;> grind

theorem basic?_spelled {c : Char} (other : c ≠ '"') (rest : List Char) :
    basic? (spelled false c ++ rest) = before (some c) (basic? rest) := by
  rcases spelled_cases false c with ⟨letter, same, reads⟩ | ⟨same, control⟩ | ⟨_, block, _⟩ |
    ⟨same, plain, notBackslash, _, _⟩
  · rw [same]
    exact basic?_letter reads rest
  · rw [same, ← escaped?_numbered control]
    rfl
  · exact nomatch block
  · rw [same, List.singleton_append, basic?] <;> simp [plain, notBackslash, other]

theorem blockBasic?_spelled {c : Char} (other : c ≠ '"') (rest : List Char) :
    blockBasic? false (spelled true c ++ rest) = before (some c) (blockBasic? false rest) := by
  rcases spelled_cases true c with ⟨letter, same, reads⟩ | ⟨same, control⟩ | ⟨same, _, rfl⟩ |
    ⟨same, plain, notBackslash, notBreak, notReturn⟩
  · rw [same]
    exact blockBasic?_letter reads rest
  · rw [same, ← escaped?_numbered control]
    rfl
  · rw [same]
    rfl
  · rw [same, List.singleton_append, blockBasic?] <;> simp [plain, notBackslash, other, notBreak, notReturn]

/-! ### Quotes on one line -/

theorem basic?_escapedFrom (cs rest : List Char) :
    basic? (escapedFrom false 0 0 cs ++ '"' :: rest) = some (cs, rest) := by
  induction cs with
  | nil => rfl
  | cons c cs ih =>
    by_cases quote : c = '"'
    · subst quote
      rw [escapedFrom, if_pos (Nat.le_refl 0), List.cons_append, List.cons_append, basic?_letter (c := '"') rfl, ih]
      rfl
    · rw [escapedFrom_cons quote, List.append_assoc, basic?_spelled quote, ih]
      rfl

theorem literal?_append {cs : List Char} (plain : ∀ c ∈ cs, isPlain c = true ∧ c ≠ '\'') (rest : List Char) :
    literal? (cs ++ '\'' :: rest) = some (cs, rest) := by
  induction cs with
  | nil => rfl
  | cons c cs ih =>
    obtain ⟨⟨first, other⟩, others⟩ := List.forall_mem_cons.mp plain
    rw [List.cons_append, literal?, if_pos first, ih others]
    · rfl
    · exact other

/-! ### Quotes in a row -/

/-- A text is of one character only, or has a first other character behind a run of it. -/
theorem run_cases (q : Char) (cs : List Char) :
    (∃ k, cs = List.replicate k q) ∨ ∃ k d more, cs = List.replicate k q ++ d :: more ∧ d ≠ q := by
  induction cs with
  | nil => exact Or.inl ⟨0, rfl⟩
  | cons c cs ih =>
    by_cases same : c = q
    · subst same
      rcases ih with ⟨k, rfl⟩ | ⟨k, d, more, rfl, other⟩
      · exact Or.inl ⟨k + 1, rfl⟩
      · exact Or.inr ⟨k + 1, d, more, rfl, other⟩
    · exact Or.inr ⟨0, c, cs, rfl, same⟩

theorem takeWhile_replicate_append {q : Char} {rest : List Char} (ends : rest.head? ≠ some q) (k : Nat) :
    (List.replicate k q ++ rest).takeWhile (· == q) = List.replicate k q := by
  have none : rest.takeWhile (· == q) = [] := by
    cases rest with
    | nil => rfl
    | cons c rest => exact List.takeWhile_cons_of_neg (by simpa using ends)
  rw [List.takeWhile_append_of_pos (by simp), none, List.append_nil]

theorem closing?_replicate {q : Char} {rest : List Char} (ends : rest.head? ≠ some q) {k : Nat} (few : k ≤ 2) :
    closing? q (List.replicate k q ++ q :: q :: q :: rest) = some (List.replicate k q, rest) := by
  have joined : List.replicate k q ++ q :: q :: q :: rest = List.replicate (k + 3) q ++ rest := by
    rw [← List.replicate_append_replicate, List.append_assoc]
    rfl
  rw [joined, closing?, takeWhile_replicate_append ends, List.length_replicate]
  have run : min 5 (k + 3) = k + 3 := by omega
  simp [run]

theorem closing?_none {q d : Char} (other : d ≠ q) {k : Nat} (few : k ≤ 2) (more : List Char) :
    closing? q (List.replicate k q ++ d :: more) = none := by
  rw [closing?, takeWhile_replicate_append (by simpa using other), List.length_replicate]
  have run : ¬ 3 ≤ min 5 k := by omega
  simp [run]

theorem le_longestRun (q : Char) {run longest : Nat} (cs : List Char) : longest ≤ longestRun q run longest cs := by
  induction cs generalizing run longest with
  | nil => exact Nat.le_refl _
  | cons c cs ih =>
    rw [longestRun]
    split
    · exact Nat.le_trans (Nat.le_max_left _ _) ih
    · exact ih

theorem add_le_longestRun {q : Char} {run longest : Nat} (bounded : run ≤ longest) (k : Nat) (more : List Char) :
    run + k ≤ longestRun q run longest (List.replicate k q ++ more) := by
  induction k generalizing run longest with
  | zero => exact Nat.le_trans bounded (le_longestRun q more)
  | succ k ih =>
    rw [List.replicate_succ, List.cons_append, longestRun, if_pos rfl]
    have further : run + 1 + k ≤ longestRun q (run + 1) (max longest (run + 1)) (List.replicate k q ++ more) :=
      ih (Nat.le_max_right _ _)
    omega

theorem not_mem_of_longestRun {q : Char} {cs : List Char} (none : longestRun q 0 0 cs = 0) : q ∉ cs := by
  induction cs with
  | nil => exact List.not_mem_nil
  | cons c cs ih =>
    rw [longestRun] at none
    split at none
    next same =>
      have some : 1 ≤ longestRun q 1 1 cs := le_longestRun q cs
      exact absurd none (Nat.ne_of_gt some)
    next other =>
      intro listed
      rcases List.mem_cons.mp listed with same | later
      · exact other same.symm
      · exact ih none later

/-- What is escaped in a block is quotes to its end, or has another character behind a run of them; the run does not
get longer than two. -/
theorem escapedFrom_cases {run : Nat} (few : run ≤ 2) (cs : List Char) :
    (∃ k, run + k ≤ 2 ∧ cs = List.replicate k '"' ∧ escapedFrom true 2 run cs = List.replicate k '"') ∨
    ∃ k d more, run + k ≤ 2 ∧ escapedFrom true 2 run cs = List.replicate k '"' ++ d :: more ∧ d ≠ '"' := by
  induction cs generalizing run with
  | nil => exact Or.inl ⟨0, few, rfl, rfl⟩
  | cons c cs ih =>
    by_cases quote : c = '"'
    · subst quote
      rw [escapedFrom]
      split
      · exact Or.inr ⟨0, '\\', _, few, rfl, by decide⟩
      next room =>
        have fits : run + 1 ≤ 2 := by omega
        rcases ih fits with ⟨k, short, rfl, same⟩ | ⟨k, d, more, short, same, other⟩
        · exact Or.inl ⟨k + 1, by omega, rfl, congrArg ('"' :: ·) same⟩
        · exact Or.inr ⟨k + 1, d, more, by omega, congrArg ('"' :: ·) same, other⟩
    · obtain ⟨d, more, same, other, _⟩ := spelled_head true quote
      rw [escapedFrom_cons quote, same]
      exact Or.inr ⟨0, d, _, few, rfl, other⟩

/-! ### Quotes over lines -/

theorem blockBasic?_closes {rest : List Char} {found : List Char × List Char}
    (closes : closing? '"' ('"' :: rest) = some found) : blockBasic? false ('"' :: rest) = some found := by
  rw [blockBasic?, closes]

theorem blockBasic?_within {rest : List Char} (within : closing? '"' ('"' :: rest) = none) :
    blockBasic? false ('"' :: rest) = before (some '"') (blockBasic? false rest) := by
  rw [blockBasic?, within]

theorem blockBasic?_escapedFrom {rest : List Char} (ends : rest.head? ≠ some '"') {run : Nat} (few : run ≤ 2)
    (cs : List Char) :
    blockBasic? false (escapedFrom true 2 run cs ++ '"' :: '"' :: '"' :: rest) = some (cs, rest) := by
  induction cs generalizing run with
  | nil => exact blockBasic?_closes (closing?_replicate ends (Nat.zero_le 2))
  | cons c cs ih =>
    by_cases quote : c = '"'
    · subst quote
      rw [escapedFrom]
      split
      · rw [List.cons_append, List.cons_append, blockBasic?_letter (c := '"') rfl, ih (Nat.zero_le 2)]
        rfl
      next room =>
        have fits : run + 1 ≤ 2 := by omega
        have found := ih fits
        rcases escapedFrom_cases fits cs with ⟨k, short, same, written⟩ |
          ⟨k, d, more, short, written, other⟩
        · -- these quotes end the text, and are read together with the closing ones
          rw [written, same]
          exact blockBasic?_closes (closing?_replicate ends (k := k + 1) (by omega))
        · rw [written] at found ⊢
          have within := closing?_none other (k := k + 1) (by omega) (more ++ '"' :: '"' :: '"' :: rest)
          rw [List.cons_append, blockBasic?_within, found]
          · rfl
          · simpa [List.replicate_succ] using within
    · rw [escapedFrom_cons quote, List.append_assoc, blockBasic?_spelled quote, ih (Nat.zero_le 2)]
      rfl

theorem blockLiteral?_closes {rest : List Char} {found : List Char × List Char}
    (closes : closing? '\'' ('\'' :: rest) = some found) : blockLiteral? ('\'' :: rest) = some found := by
  rw [blockLiteral?, closes]

theorem blockLiteral?_within {rest : List Char} (within : closing? '\'' ('\'' :: rest) = none) :
    blockLiteral? ('\'' :: rest) = before (some '\'') (blockLiteral? rest) := by
  rw [blockLiteral?, within]

theorem blockLiteral?_cons {c : Char} (kept : isControl c = false) (other : c ≠ '\'') (rest : List Char) :
    blockLiteral? (c :: rest) = before (some c) (blockLiteral? rest) := by
  by_cases newline : c = '\n'
  · rw [newline, blockLiteral?]
  · have notReturn : c ≠ '\r' := by
      rintro rfl
      exact nomatch kept
    rw [blockLiteral?, if_pos (isPlain_of_not_isControl kept newline)] <;> simp [newline, notReturn, other]

theorem blockLiteral?_append {rest : List Char} (ends : rest.head? ≠ some '\'') {run longest : Nat} {cs : List Char}
    (kept : ∀ c ∈ cs, isControl c = false) (bounded : run ≤ longest) (few : longestRun '\'' run longest cs ≤ 2) :
    blockLiteral? (cs ++ '\'' :: '\'' :: '\'' :: rest) = some (cs, rest) := by
  induction cs generalizing run longest with
  | nil => exact blockLiteral?_closes (closing?_replicate ends (Nat.zero_le 2))
  | cons c cs ih =>
    obtain ⟨first, others⟩ := List.forall_mem_cons.mp kept
    rw [longestRun] at few
    by_cases quote : c = '\''
    · subst quote
      rw [if_pos rfl] at few
      have found := ih others (Nat.le_max_right _ _) few
      rcases run_cases '\'' cs with ⟨k, rfl⟩ | ⟨k, d, more, rfl, other⟩
      · have short := add_le_longestRun (q := '\'') (Nat.le_max_right longest (run + 1)) k []
        rw [List.append_nil] at short
        exact blockLiteral?_closes (closing?_replicate ends (k := k + 1) (by omega))
      · have short := add_le_longestRun (q := '\'') (Nat.le_max_right longest (run + 1)) k (d :: more)
        have within := closing?_none other (k := k + 1) (by omega) (more ++ '\'' :: '\'' :: '\'' :: rest)
        rw [List.cons_append, blockLiteral?_within, found]
        · rfl
        · simpa [List.replicate_succ] using within
    · rw [if_neg quote] at few
      rw [List.cons_append, blockLiteral?_cons first quote, ih others (Nat.zero_le _) few]
      rfl

/-! ### Any quotes -/

theorem skipNewline_of_head {cs : List Char} (notBreak : cs.head? ≠ some '\n') (notReturn : cs.head? ≠ some '\r') :
    skipNewline cs = cs := by
  unfold skipNewline newline?
  split
  · exact absurd rfl notBreak
  · exact absurd rfl notReturn
  · rfl

theorem string?_blockBasic (cs : List Char) :
    string? ('"' :: '"' :: '"' :: cs) =
      (blockBasic? false (skipNewline cs)).map fun (text, rest) => (String.ofList text, rest) := rfl

theorem string?_blockLiteral (cs : List Char) :
    string? ('\'' :: '\'' :: '\'' :: cs) =
      (blockLiteral? (skipNewline cs)).map fun (text, rest) => (String.ofList text, rest) := rfl

theorem string?_basic {cs : List Char} (alone : ∀ more, cs ≠ '"' :: '"' :: more) :
    string? ('"' :: cs) = (basic? cs).map fun (text, rest) => (String.ofList text, rest) := by
  unfold string?
  split
  next same => exact absurd (List.cons.inj same).2 (alone _)
  next same => rw [(List.cons.inj same).2]
  next same => exact nomatch same
  next same => exact nomatch same
  next wrong _ _ => exact absurd rfl (wrong cs)

theorem string?_literal {cs : List Char} (alone : ∀ more, cs ≠ '\'' :: '\'' :: more) :
    string? ('\'' :: cs) = (literal? cs).map fun (text, rest) => (String.ofList text, rest) := by
  unfold string?
  split
  next same => exact nomatch same
  next same => exact nomatch same
  next same => exact absurd (List.cons.inj same).2 (alone _)
  next same => rw [(List.cons.inj same).2]
  next wrong => exact absurd rfl (wrong cs)

/-- A quote in front of a body that begins otherwise is no part of three. -/
theorem opens_line {q : Char} {body rest : List Char} (opens : body.head? ≠ some q) (ends : rest.head? ≠ some q)
    (more : List Char) : body ++ q :: rest ≠ q :: q :: more := by
  cases body with
  | nil =>
    intro same
    exact ends (congrArg List.head? (List.cons.inj same).2)
  | cons c body =>
    intro same
    exact opens (congrArg some (List.cons.inj same).1)

theorem escapedFrom_head (cs : List Char) : (escapedFrom false 0 0 cs).head? ≠ some '"' := by
  cases cs with
  | nil => simp [escapedFrom]
  | cons c cs =>
    by_cases quote : c = '"'
    · subst quote
      simp [escapedFrom]
    · obtain ⟨d, more, same, other, _⟩ := spelled_head false quote
      simp [escapedFrom_cons quote, same, other]

/-- A block of a text without a line break does not begin with one. -/
theorem skipNewline_escapedFrom {cs : List Char} (inLine : '\n' ∉ cs) (rest : List Char) :
    skipNewline (escapedFrom true 2 0 cs ++ '"' :: rest) = escapedFrom true 2 0 cs ++ '"' :: rest := by
  cases cs with
  | nil => rfl
  | cons c cs =>
    by_cases quote : c = '"'
    · subst quote
      rw [escapedFrom]
      rfl
    · obtain ⟨d, more, same, _, notReturn, newline⟩ := spelled_head true quote
      have notBreak : d ≠ '\n' := fun eq => inLine (newline eq ▸ List.mem_cons_self)
      refine skipNewline_of_head ?_ ?_ <;> simp [escapedFrom_cons quote, same, notReturn, notBreak]

theorem quotes_cases (cs : List Char) :
    Quotes.of (Shape.of cs) = .basic ∨
    (Quotes.of (Shape.of cs) = .literal ∧ ∀ c ∈ cs, isPlain c = true ∧ c ≠ '\'') ∨
    Quotes.of (Shape.of cs) = .blockBasic ∨
    (Quotes.of (Shape.of cs) = .blockLiteral ∧ (∀ c ∈ cs, isControl c = false) ∧ longestRun '\'' 0 0 cs ≤ 2) := by
  unfold Quotes.of
  split
  · exact Or.inl rfl
  split
  next shape =>
    simp only [Shape.of, Bool.and_eq_true, Bool.not_eq_true', List.any_eq_false, beq_iff_eq, Bool.not_eq_true] at shape
    obtain ⟨⟨kept, none⟩, inLine⟩ := shape
    refine Or.inr (Or.inl ⟨rfl, fun c listed => ⟨isPlain_of_not_isControl (kept c listed) (inLine c listed), ?_⟩⟩)
    rintro rfl
    exact not_mem_of_longestRun none listed
  split
  · exact Or.inr (Or.inr (Or.inl rfl))
  split
  next shape =>
    simp only [Shape.of, Bool.and_eq_true, Bool.not_eq_true', List.any_eq_false, Bool.not_eq_true] at shape
    exact Or.inr (Or.inr (Or.inr ⟨rfl, shape.1, of_decide_eq_true shape.2⟩))
  split
  · exact Or.inr (Or.inr (Or.inl rfl))
  · exact Or.inl rfl

theorem not_mem_of_newline {cs : List Char} (inLine : (Shape.of cs).newline ≠ true) : '\n' ∉ cs := by
  intro listed
  exact inLine (List.any_eq_true.mpr ⟨'\n', listed, rfl⟩)

theorem skipNewline_blockBasic (cs rest : List Char) :
    skipNewline (Quotes.blockBasic.body cs ++ '"' :: rest) = escapedFrom true 2 0 cs ++ '"' :: rest := by
  unfold Quotes.body
  dsimp only
  split
  · rfl
  next inLine => exact skipNewline_escapedFrom (not_mem_of_newline inLine) rest

theorem skipNewline_blockLiteral {cs : List Char} (kept : ∀ c ∈ cs, isControl c = false) (rest : List Char) :
    skipNewline (Quotes.blockLiteral.body cs ++ '\'' :: rest) = cs ++ '\'' :: rest := by
  unfold Quotes.body
  dsimp only
  split
  · rfl
  next inLine =>
    cases cs with
    | nil => rfl
    | cons c cs =>
      have notBreak : c ≠ '\n' := fun same => not_mem_of_newline inLine (same ▸ List.mem_cons_self)
      have notReturn : c ≠ '\r' := by
        rintro rfl
        exact nomatch kept '\r' List.mem_cons_self
      refine skipNewline_of_head ?_ ?_ <;> simp [notBreak, notReturn]

/-- A text is read from its quotes as it was put into them. -/
theorem string?_quoted {rest : List Char} (ends : rest.head? ≠ some '"' ∧ rest.head? ≠ some '\'') (cs : List Char) :
    string? (quoted cs ++ rest) = some (String.ofList cs, rest) := by
  unfold quoted
  rcases quotes_cases cs with same | ⟨same, plain⟩ | same | ⟨same, kept, few⟩ <;> rw [same] <;>
    simp only [Quotes.delimiter, List.cons_append, List.nil_append, List.append_assoc]
  · have opens := opens_line (escapedFrom_head cs) ends.1
    refine (string?_basic opens).trans ?_
    rw [basic?_escapedFrom]
    rfl
  · have opens : cs.head? ≠ some '\'' := fun first => (plain _ (List.mem_of_mem_head? first)).2 rfl
    refine (string?_literal (opens_line opens ends.2)).trans ?_
    rw [literal?_append plain]
    rfl
  · rw [string?_blockBasic, skipNewline_blockBasic, blockBasic?_escapedFrom ends.1 (Nat.zero_le 2)]
    rfl
  · rw [string?_blockLiteral, skipNewline_blockLiteral kept, blockLiteral?_append ends.2 kept (Nat.le_refl 0) few]
    rfl

end RelayQuality.Toml
