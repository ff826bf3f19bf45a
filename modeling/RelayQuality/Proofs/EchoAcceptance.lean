import RelayQuality.Proofs.EchoRoundTrip

/-!
# Data taken for an answer

The reader trusts what stands in front of a message: it takes the lower half of the first octet for the length of an
internet header, however short, and asks for the version only where a header may be missing. So it takes all genuine
answers and, beside them, `Stray` data with a header that is none.
-/

namespace RelayQuality.Echo

/-- The word at an offset, high octet first. -/
def wordAt? (data : List UInt8) (offset : Nat) : Option UInt16 := do
  return word (← data[offset]?) (← data[offset + 1]?)

/-- The version of the internet protocol that the first octet names. -/
def version? (data : List UInt8) : Option Nat := data.head?.map highNibble

/-- The length of the header that the first octet names, in words of four octets. -/
def headerWords (data : List UInt8) : Nat := data.head?.elim 0 lowNibble

/-- A whole message stands at an offset, and it answers the request with this number. -/
structure AnswerAt (data : List UInt8) (offset : Nat) (sequence : UInt16) : Prop where
  whole : offset + 8 ≤ data.length
  kind : data[offset]? = some 0
  number : wordAt? data (offset + 6) = some sequence

/-- An answer without a header, as only a datagram socket hears it. -/
structure Bare (data : List UInt8) (datagram : Bool) (sequence : UInt16) : Prop where
  datagram : datagram = true
  headless : version? data ≠ some 4
  answer : AnswerAt data 0 sequence

/-- An answer behind as many octets as the first one tells, which a raw socket knows for its own by the identifier. -/
structure Behind (data : List UInt8) (ours : UInt16) (datagram : Bool) (sequence : UInt16) : Prop where
  room : 20 ≤ data.length
  answer : AnswerAt data (4 * headerWords data) sequence
  own : datagram = false → wordAt? data (4 * headerWords data + 4) = some ours

/-- An answer without a header, or behind one that is well-formed. -/
def Genuine (data : List UInt8) (ours : UInt16) (datagram : Bool) (sequence : UInt16) : Prop :=
  Bare data datagram sequence ∨
    version? data = some 4 ∧ 5 ≤ headerWords data ∧ Behind data ours datagram sequence

/-- An answer behind octets that are no header: too few of them, or on a raw socket of another version. -/
def Stray (data : List UInt8) (ours : UInt16) (datagram : Bool) (sequence : UInt16) : Prop :=
  (version? data = some 4 ∧ headerWords data < 5 ∨ datagram = false ∧ version? data ≠ some 4) ∧
    Behind data ours datagram sequence

variable {data : List UInt8} {ours sequence : UInt16} {datagram : Bool}

/-! ### Messages -/

theorem wordAt?_drop (skipped offset : Nat) : wordAt? (data.drop skipped) offset = wordAt? data (skipped + offset) := by
  rw [wordAt?, wordAt?, List.getElem?_drop, List.getElem?_drop, Nat.add_assoc]

theorem answerAt_drop (skipped : Nat) : AnswerAt (data.drop skipped) 0 sequence ↔ AnswerAt data skipped sequence := by
  constructor
  · rintro ⟨whole, kind, number⟩
    rw [List.length_drop] at whole
    rw [List.getElem?_drop] at kind
    rw [wordAt?_drop] at number
    exact ⟨by omega, kind, number⟩
  · rintro ⟨whole, kind, number⟩
    refine ⟨?_, ?_, ?_⟩
    · rw [List.length_drop]
      omega
    · rw [List.getElem?_drop]
      exact kind
    · rw [wordAt?_drop]
      exact number

theorem octets_word (high low : UInt8) : octets (word high low) = [high, low] := by
  have := low.toNat_lt
  have above : (high.toNat * 256 + low.toNat) / 256 = high.toNat := by omega
  have below : (high.toNat * 256 + low.toNat) % 256 = low.toNat := by omega
  rw [octets, toNat_word, above, below, UInt8.ofNat_toNat, UInt8.ofNat_toNat]

theorem exists_message (long : 8 ≤ data.length) :
    ∃ kind code high low identifier number rest, data = message kind code high low identifier number rest := by
  match data with
  | kind :: code :: high :: low :: idHigh :: idLow :: first :: second :: rest =>
    refine ⟨kind, code, high, low, word idHigh idLow, word first second, rest, ?_⟩
    rw [message, octets_word, octets_word]
    rfl
  | [] | [_] | [_, _] | [_, _, _] | [_, _, _, _] | [_, _, _, _, _] | [_, _, _, _, _, _] | [_, _, _, _, _, _, _] =>
    simp at long

theorem answerAt_message {kind code high low : UInt8} {identifier number : UInt16} {rest : List UInt8} :
    AnswerAt (message kind code high low identifier number rest) 0 sequence ↔ kind = replyType ∧ number = sequence := by
  have there : wordAt? (message kind code high low identifier number rest) 6 = some number :=
    congrArg some (word_octets number)
  constructor
  · rintro ⟨_, same, read⟩
    exact ⟨Option.some.inj same, Option.some.inj (there.symm.trans read)⟩
  · rintro ⟨rfl, rfl⟩
    exact ⟨by simp [message, octets], rfl, there⟩

theorem sequenceOf?_of_short {found : List UInt8} (here : messageOf? data datagram = some found)
    (short : found.length < 8) : sequenceOf? data ours datagram = none := by
  rw [sequenceOf?, here]
  split
  next whole =>
    obtain rfl := Option.some.inj whole
    simp only [List.length_cons] at short
    omega
  next => rfl

theorem sequenceOf?_of_found {found : List UInt8} (here : messageOf? data datagram = some found) :
    sequenceOf? data ours datagram = some sequence ↔
      AnswerAt found 0 sequence ∧ (datagram = false → wordAt? found 4 = some ours) := by
  rcases Nat.lt_or_ge found.length 8 with short | long
  · rw [sequenceOf?_of_short here short]
    exact iff_of_false nofun fun answers => Nat.not_lt_of_le answers.1.whole short
  · obtain ⟨kind, code, high, low, identifier, number, rest, rfl⟩ := exists_message long
    have named : wordAt? (message kind code high low identifier number rest) 4 = some identifier :=
      congrArg some (word_octets identifier)
    rw [sequenceOf?_eq here, answerAt_message, named]
    cases datagram <;> simp [and_right_comm, eq_comm (a := ours)]

/-! ### Headers -/

theorem startsWithHeader_iff : startsWithHeader data = true ↔ version? data = some 4 := by
  cases data <;> simp [startsWithHeader, version?]

theorem afterHeader?_eq_some_iff {message : List UInt8} :
    afterHeader? data = some message ↔
      20 ≤ data.length ∧ 4 * headerWords data ≤ data.length ∧ message = data.drop (4 * headerWords data) := by
  cases data with
  | nil => simp [afterHeader?]
  | cons first rest =>
    have words : headerWords (first :: rest) = lowNibble first := rfl
    rw [afterHeader?, words, Nat.mul_comm 4]
    split
    next short =>
      refine iff_of_false ?_ ?_
      · intro found
        cases found
      · rintro ⟨_, _, _⟩
        omega
    next long =>
      rw [Option.some.injEq, eq_comm (b := message)]
      constructor
      · intro same
        exact ⟨by omega, by omega, same⟩
      · exact fun all => all.2.2

theorem messageOf?_eq_some_iff {message : List UInt8} :
    messageOf? data datagram = some message ↔
      datagram = true ∧ version? data ≠ some 4 ∧ message = data ∨
        (datagram = true → version? data = some 4) ∧ afterHeader? data = some message := by
  rw [messageOf?, Ne, ← startsWithHeader_iff, eq_comm (a := message)]
  cases datagram with
  | false => simp
  | true => cases startsWithHeader data <;> simp

/-! ### Answers -/

theorem sequenceOf?_eq_some_iff :
    sequenceOf? data ours datagram = some sequence ↔
      Bare data datagram sequence ∨
        (datagram = true → version? data = some 4) ∧ Behind data ours datagram sequence := by
  constructor
  · intro heard
    obtain ⟨message, found⟩ : ∃ message, messageOf? data datagram = some message := by
      cases found : messageOf? data datagram with
      | none => simp [sequenceOf?, found] at heard
      | some message => exact ⟨message, rfl⟩
    obtain ⟨answer, own⟩ := (sequenceOf?_of_found found).mp heard
    rcases messageOf?_eq_some_iff.mp found with ⟨socket, headless, rfl⟩ | ⟨headed, after⟩
    · exact .inl ⟨socket, headless, answer⟩
    · obtain ⟨room, _, rfl⟩ := afterHeader?_eq_some_iff.mp after
      rw [wordAt?_drop] at own
      exact .inr ⟨headed, room, (answerAt_drop _).mp answer, own⟩
  · rintro (⟨socket, headless, answer⟩ | ⟨headed, room, answer, own⟩)
    · have found : messageOf? data datagram = some data := messageOf?_eq_some_iff.mpr (.inl ⟨socket, headless, rfl⟩)
      refine (sequenceOf?_of_found found).mpr ⟨answer, fun raw => ?_⟩
      exact absurd (socket.symm.trans raw) (by decide)
    · have whole := answer.whole
      have after : afterHeader? data = some (data.drop (4 * headerWords data)) :=
        afterHeader?_eq_some_iff.mpr ⟨room, by omega, rfl⟩
      have found := messageOf?_eq_some_iff.mpr (.inr ⟨headed, after⟩)
      refine (sequenceOf?_of_found found).mpr ⟨(answerAt_drop _).mpr answer, ?_⟩
      rwa [wordAt?_drop]

theorem Genuine.not_stray (genuine : Genuine data ours datagram sequence) : ¬ Stray data ours datagram sequence := by
  rintro ⟨⟨version, short⟩ | ⟨raw, other⟩, _⟩
  · rcases genuine with bare | ⟨_, long, _⟩
    · exact bare.headless version
    · omega
  · rcases genuine with bare | ⟨version, _⟩
    · exact absurd (bare.datagram.symm.trans raw) (by decide)
    · exact other version

/-- What is taken for an answer is genuine or stray, and all of both is taken. -/
theorem taken_is_genuine_iff (data : List UInt8) (ours : UInt16) (datagram : Bool) (sequence : UInt16) :
    (sequenceOf? data ours datagram = some sequence ↔
      Genuine data ours datagram sequence ∨ Stray data ours datagram sequence) ∧
    ((sequenceOf? data ours datagram = some sequence → Genuine data ours datagram sequence) ↔
      ¬ Stray data ours datagram sequence) := by
  have taken : sequenceOf? data ours datagram = some sequence ↔
      Genuine data ours datagram sequence ∨ Stray data ours datagram sequence := by
    rw [sequenceOf?_eq_some_iff]
    constructor
    · rintro (bare | ⟨headed, behind⟩)
      · exact .inl (.inl bare)
      · by_cases version : version? data = some 4
        · rcases Nat.lt_or_ge (headerWords data) 5 with short | long
          · exact .inr ⟨.inl ⟨version, short⟩, behind⟩
          · exact .inl (.inr ⟨version, long, behind⟩)
        · have raw : datagram = false := Bool.eq_false_iff.mpr fun socket => version (headed socket)
          exact .inr ⟨.inr ⟨raw, version⟩, behind⟩
    · rintro ((bare | ⟨version, _, behind⟩) | ⟨⟨version, _⟩ | ⟨raw, _⟩, behind⟩)
      · exact .inl bare
      · exact .inr ⟨fun _ => version, behind⟩
      · exact .inr ⟨fun _ => version, behind⟩
      · exact .inr ⟨fun socket => absurd (socket.symm.trans raw) (by decide), behind⟩
  refine ⟨taken, fun sound stray => ?_, fun regular heard => ?_⟩
  · exact (sound (taken.mpr (.inr stray))).not_stray stray
  · exact (taken.mp heard).resolve_right regular

/-- An answer to the identifier 1234 with the number 77, and twelve octets more. -/
def headlessAnswer : List UInt8 := [0, 0, 0, 0, 4, 210, 0, 77] ++ List.replicate 12 0

/-- The same behind two words that claim to be a header. -/
def shortHeaded : List UInt8 := [0x42, 0, 0, 0, 0, 0, 0, 0] ++ headlessAnswer

/-- A raw socket takes an answer without a header, and each kind takes one behind a header of two words. -/
theorem headlessAnswer_taken :
    sequenceOf? headlessAnswer 1234 false = some 77 ∧ ¬ Genuine headlessAnswer 1234 false 77 ∧
    ∀ datagram, sequenceOf? shortHeaded 1234 datagram = some 77 ∧ ¬ Genuine shortHeaded 1234 datagram 77 := by
  have raw : Stray headlessAnswer 1234 false 77 := by
    refine ⟨.inr ⟨rfl, by decide⟩, by decide, ⟨by decide, rfl, by decide⟩, fun _ => by decide⟩
  have short (datagram : Bool) : Stray shortHeaded 1234 datagram 77 := by
    refine ⟨.inl ⟨by decide, by decide⟩, by decide, ⟨by decide, rfl, by decide⟩, fun _ => by decide⟩
  refine ⟨by decide, fun genuine => genuine.not_stray raw, fun datagram => ⟨?_, fun genuine => ?_⟩⟩
  · cases datagram <;> decide
  · exact genuine.not_stray (short datagram)

end RelayQuality.Echo
