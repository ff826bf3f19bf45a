import RelayQuality.Command.HopPair
import RelayQuality.Proofs.Spacing

/-!
# How pairs of hops are spelled

A text is read as a pair exactly if it spells one: it falls apart at its first comma and each part at its first colon, and
what is left is the names with white space around them. So the names that are read are trimmed and free of the characters
that divided them, and every pair with such names is read from what it is written as.
-/

namespace RelayQuality

/-! ### Cities -/

namespace CityRef

variable {c padded : CityRef} {cs : List Char}

/-- The characters name the city: the country up to the first colon, and the city behind it. -/
def SpelledBy (c : CityRef) (cs : List Char) : Prop :=
  ∃ front back, cs = front ++ ':' :: back ∧ ':' ∉ front ∧ Spells front c.country.toList ∧ Spells back c.city.toList

/-- Something other than white space stands on both sides of the first colon. -/
def NamesCity (cs : List Char) : Prop :=
  ∃ front back, cs = front ++ ':' :: back ∧ ':' ∉ front ∧ ¬ IsBlank front ∧ ¬ IsBlank back

@[mk_iff]
structure WellFormed (c : CityRef) : Prop where
  country : IsTrimmed c.country.toList
  city : IsTrimmed c.city.toList
  divided : ':' ∉ c.country.toList

instance (c : CityRef) : Decidable c.WellFormed := decidable_of_iff' _ (wellFormed_iff c)

/-- The same names, with white space around them in the first. -/
def PadsOf (padded c : CityRef) : Prop :=
  Pads padded.country.toList c.country.toList ∧ Pads padded.city.toList c.city.toList

theorem ofChars_eq_ok_iff : ofChars cs = .ok c ↔ c.SpelledBy cs := by
  rw [ofChars]
  constructor
  · intro read
    split at read
    next => cases read
    next front back split =>
      obtain ⟨divided, first⟩ := splitFirst?_eq_some_iff.mp split
      split at read
      next => cases read
      next full =>
        obtain rfl := Except.ok.inj read
        have both : trim front ≠ [] ∧ trim back ≠ [] := by simpa using full
        refine ⟨front, back, divided, first, ?_, ?_⟩
        · exact spells_iff.mpr (by simpa using both.1)
        · exact spells_iff.mpr (by simpa using both.2)
  · rintro ⟨front, back, divided, first, country, city⟩
    obtain ⟨some, same⟩ := spells_iff.mp country
    obtain ⟨some', same'⟩ := spells_iff.mp city
    rw [splitFirst?_eq_some_iff.mpr ⟨divided, first⟩]
    simp [same, same', some, some']

theorem exists_spelledBy_iff : (∃ c : CityRef, c.SpelledBy cs) ↔ NamesCity cs := by
  constructor
  · rintro ⟨c, front, back, divided, first, country, city⟩
    exact ⟨front, back, divided, first, exists_spells_iff.mp ⟨_, country⟩, exists_spells_iff.mp ⟨_, city⟩⟩
  · rintro ⟨front, back, divided, first, some, some'⟩
    obtain ⟨country, spelled⟩ := exists_spells_iff.mpr some
    obtain ⟨city, spelled'⟩ := exists_spells_iff.mpr some'
    exact ⟨⟨country, city⟩, front, back, divided, first, spelled, spelled'⟩

theorem SpelledBy.wellFormed (spelled : c.SpelledBy cs) : c.WellFormed := by
  obtain ⟨front, back, _, first, country, city⟩ := spelled
  exact ⟨country.trimmed, city.trimmed, fun member => first (country.pads.mem member)⟩

theorem WellFormed.spelledBy (wellFormed : c.WellFormed) (pads : padded.PadsOf c) :
    c.SpelledBy padded.text.toList := by
  refine ⟨padded.country.toList, padded.city.toList, ?_, ?_, ⟨wellFormed.country, pads.1⟩, ⟨wellFormed.city, pads.2⟩⟩
  · rw [text, String.toList_append, String.toList_append, List.append_assoc]
    rfl
  · exact pads.1.not_mem (by decide) wellFormed.divided

end CityRef

/-! ### Pairs -/

namespace HopPair

variable {pair padded : HopPair} {cs : List Char}

/-- The characters name the pair: the exit up to the first comma, and the entry behind it. -/
def SpelledBy (pair : HopPair) (cs : List Char) : Prop :=
  ∃ front back, cs = front ++ ',' :: back ∧ ',' ∉ front ∧ pair.exit.SpelledBy front ∧ pair.entry.SpelledBy back

@[mk_iff]
structure WellFormed (pair : HopPair) : Prop where
  exit : pair.exit.WellFormed
  entry : pair.entry.WellFormed
  country : ',' ∉ pair.exit.country.toList
  city : ',' ∉ pair.exit.city.toList

instance (pair : HopPair) : Decidable pair.WellFormed := decidable_of_iff' _ (wellFormed_iff pair)

/-- Exit and entry with a comma between. -/
def text (pair : HopPair) : String := pair.exit.text ++ "," ++ pair.entry.text

theorem ofChars_eq_ok_iff : ofChars cs = .ok pair ↔ pair.SpelledBy cs := by
  rw [ofChars]
  constructor
  · intro read
    split at read
    next => cases read
    next front back split =>
      obtain ⟨divided, first⟩ := splitFirst?_eq_some_iff.mp split
      split at read
      next exit entry left right =>
        obtain rfl := Except.ok.inj read
        exact ⟨front, back, divided, first, CityRef.ofChars_eq_ok_iff.mp left, CityRef.ofChars_eq_ok_iff.mp right⟩
      next => cases read
      next => cases read
  · rintro ⟨front, back, divided, first, exit, entry⟩
    rw [splitFirst?_eq_some_iff.mpr ⟨divided, first⟩]
    simp only [CityRef.ofChars_eq_ok_iff.mpr exit, CityRef.ofChars_eq_ok_iff.mpr entry]

theorem exists_spelledBy_iff :
    (∃ pair : HopPair, pair.SpelledBy cs) ↔
      ∃ front back, cs = front ++ ',' :: back ∧ ',' ∉ front ∧ CityRef.NamesCity front ∧ CityRef.NamesCity back := by
  constructor
  · rintro ⟨pair, front, back, divided, first, exit, entry⟩
    refine ⟨front, back, divided, first, ?_, ?_⟩
    · exact CityRef.exists_spelledBy_iff.mp ⟨_, exit⟩
    · exact CityRef.exists_spelledBy_iff.mp ⟨_, entry⟩
  · rintro ⟨front, back, divided, first, some, some'⟩
    obtain ⟨exit, spelled⟩ := CityRef.exists_spelledBy_iff.mpr some
    obtain ⟨entry, spelled'⟩ := CityRef.exists_spelledBy_iff.mpr some'
    exact ⟨⟨exit, entry⟩, front, back, divided, first, spelled, spelled'⟩

theorem SpelledBy.wellFormed (spelled : pair.SpelledBy cs) : pair.WellFormed := by
  obtain ⟨front, back, _, first, exit, entry⟩ := spelled
  have wellFormed := exit.wellFormed
  obtain ⟨country, city, rfl, _, named, named'⟩ := exit
  refine ⟨wellFormed, entry.wellFormed, ?_, ?_⟩
  · intro member
    exact first (List.mem_append_left _ (named.pads.mem member))
  · intro member
    exact first (List.mem_append_right _ (List.mem_cons_of_mem _ (named'.pads.mem member)))

theorem WellFormed.spelledBy (wellFormed : pair.WellFormed) (exit : padded.exit.PadsOf pair.exit)
    (entry : padded.entry.PadsOf pair.entry) : pair.SpelledBy padded.text.toList := by
  refine ⟨padded.exit.text.toList, padded.entry.text.toList, ?_, ?_, ?_, ?_⟩
  · rw [text, String.toList_append, String.toList_append, List.append_assoc]
    rfl
  · have country := exit.1.not_mem (c := ',') (by decide) wellFormed.country
    have city := exit.2.not_mem (c := ',') (by decide) wellFormed.city
    simp [CityRef.text, country, city]
  · exact wellFormed.exit.spelledBy exit
  · exact wellFormed.entry.spelledBy entry

/-- A text is read as a pair exactly if it spells one, and each pair with well-formed names is read from its text,
whatever white space is put around the names. -/
theorem pairs_are_read_as_spelled (text : String) (pair : HopPair) :
    ((∃ read, ofText text = .ok read) ↔
      ∃ front back, text.toList = front ++ ',' :: back ∧ ',' ∉ front ∧
        CityRef.NamesCity front ∧ CityRef.NamesCity back) ∧
    (ofText text = .ok pair ↔ pair.SpelledBy text.toList) ∧
    (ofText text = .ok pair → pair.WellFormed) ∧
    (pair.WellFormed → ∀ padded : HopPair, padded.exit.PadsOf pair.exit → padded.entry.PadsOf pair.entry →
      ofText padded.text = .ok pair) := by
  have spelled {read : HopPair} {text : String} : ofText text = .ok read ↔ read.SpelledBy text.toList :=
    ofChars_eq_ok_iff
  refine ⟨?_, spelled, fun read => (spelled.mp read).wellFormed, ?_⟩
  · rw [← exists_spelledBy_iff]
    exact exists_congr fun read => spelled
  · intro wellFormed padded exit entry
    exact spelled.mpr (wellFormed.spelledBy exit entry)

/-- A pair that has colons and commas in other places than between its names. -/
def punctuated : HopPair := ⟨⟨"de", "Frank:furt"⟩, ⟨"n,l", "Am:ster, dam"⟩⟩

/-- The same with an ideographic space, a tabulator, a line feed and a no-break space around names. -/
def spaced : HopPair := ⟨⟨"\u3000de ", "Frank:furt"⟩, ⟨"\tn,l", "\n Am:ster, dam\u00a0"⟩⟩

theorem spaced_read :
    spaced.text = "\u3000de :Frank:furt,\tn,l:\n Am:ster, dam\u00a0" ∧ punctuated.WellFormed ∧
    ofText spaced.text = .ok punctuated := by
  have wellFormed : punctuated.WellFormed := by decide
  obtain ⟨_, _, _, back⟩ := pairs_are_read_as_spelled spaced.text punctuated
  refine ⟨rfl, wellFormed, back wellFormed spaced ⟨?_, .refl _⟩ ⟨?_, ?_⟩⟩
  · exact ⟨['\u3000'], [' '], by decide, by decide, rfl⟩
  · exact ⟨['\t'], [], by decide, by decide, rfl⟩
  · exact ⟨['\n', ' '], ['\u00a0'], by decide, by decide, rfl⟩

end HopPair

end RelayQuality
