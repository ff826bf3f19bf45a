import RelayQuality.Probe.Echo

/-!
# Answers give back what requests carry

An answer repeats its request but for the type, the checksum and what is put around it. Main statement: the sequence
number of a request is read from each of its answers, behind an internet header of any length or without one, and from no
request. What a request adds up to is said by words added one by one with end-around carry, and not by the carries that
the sender folds in at the end.
-/

namespace RelayQuality.Echo

/-! ### Sums with end-around carry -/

/-- Two words added in ones' complement: a carry out of the high end comes back in at the low end. -/
def addCarry (a b : UInt16) : UInt16 := if a.toNat + b.toNat < 65536 then a + b else a + b + 1

/-- The ones' complement sum of the words of a message; an odd last octet is a high one. -/
def onesSum : List UInt8 → UInt16
  | [] => 0
  | [high] => word high 0
  | high :: low :: rest => addCarry (word high low) (onesSum rest)

theorem toNat_word (high low : UInt8) : (word high low).toNat = high.toNat * 256 + low.toNat := by
  have := high.toNat_lt
  have := low.toNat_lt
  rw [word, UInt16.toNat_ofNat']
  omega

theorem toNat_addCarry (a b : UInt16) :
    (addCarry a b).toNat = if a.toNat + b.toNat < 65536 then a.toNat + b.toNat else a.toNat + b.toNat - 65535 := by
  have := a.toNat_lt
  have := b.toNat_lt
  rw [addCarry]
  split
  · rw [UInt16.toNat_add]
    omega
  · rw [UInt16.toNat_add, UInt16.toNat_add, UInt16.toNat_one]
    omega

/-- Carries keep the remainder modulo 65535, and only nothing folds to zero. -/
theorem fold_eq (n : Nat) : fold n = if n = 0 then 0 else (n - 1) % 65535 + 1 := by
  fun_induction fold n with
  | case1 n small => split <;> omega
  | case2 n large ih =>
    rw [ih, if_neg (by omega), if_neg (by omega)]
    omega

theorem fold_add_complement (n : Nat) : fold (n + (65535 - fold n)) = 65535 := by
  rw [fold_eq n]
  split
  · rw [fold_eq, if_neg (by omega)]
    omega
  · rw [fold_eq, if_neg (by omega)]
    omega

/-- Adding the carries at each word and folding them in at the end is the same. -/
theorem toNat_onesSum (message : List UInt8) : (onesSum message).toNat = fold (wordSum message) := by
  fun_induction onesSum message with
  | case1 => rw [wordSum, fold_eq, if_pos rfl, UInt16.toNat_zero]
  | case2 high =>
    have small : high.toNat * 256 < 65536 := by
      have := high.toNat_lt
      omega
    rw [toNat_word, wordSum, fold, if_pos small, UInt8.toNat_zero, Nat.add_zero]
  | case3 high low rest ih =>
    have bound := (word high low).toNat_lt
    rw [toNat_addCarry, ih, wordSum, ← toNat_word, fold_eq, fold_eq]
    split <;> split <;> split <;> omega

/-! ### The parts of a message -/

@[simp]
theorem word_octets (w : UInt16) : word (UInt8.ofNat (w.toNat / 256)) (UInt8.ofNat (w.toNat % 256)) = w := by
  have := w.toNat_lt
  rw [← UInt16.toNat_inj, toNat_word, UInt8.toNat_ofNat', UInt8.toNat_ofNat']
  omega

def message (kind code high low : UInt8) (identifier sequence : UInt16) (rest : List UInt8) : List UInt8 :=
  [kind, code, high, low] ++ octets identifier ++ octets sequence ++ rest

/-- An answer to a request, with a checksum of its own. -/
def answerTo (sent : List UInt8) (high low : UInt8) : List UInt8 := ((sent.set 0 replyType).set 2 high).set 3 low

theorem request_eq (identifier sequence : UInt16) : ∃ high low,
    request identifier sequence = message requestType 0 high low identifier sequence payload :=
  ⟨_, _, rfl⟩

theorem answerTo_message (kind code first second high low : UInt8) (identifier sequence : UInt16) (rest : List UInt8) :
    answerTo (message kind code first second identifier sequence rest) high low =
      message replyType code high low identifier sequence rest :=
  rfl

theorem message_append (kind code high low : UInt8) (identifier sequence : UInt16) (rest appended : List UInt8) :
    message kind code high low identifier sequence rest ++ appended =
      message kind code high low identifier sequence (rest ++ appended) := by
  rw [message, message, List.append_assoc]

theorem length_request (identifier sequence : UInt16) : (request identifier sequence).length = 64 := rfl

theorem wordSum_octets_append (w : UInt16) (rest : List UInt8) :
    wordSum (octets w ++ rest) = w.toNat + wordSum rest := by
  show (UInt8.ofNat (w.toNat / 256)).toNat * 256 + (UInt8.ofNat (w.toNat % 256)).toNat + wordSum rest = _
  rw [← toNat_word, word_octets]

theorem toNat_checksum (sum : Nat) : (checksum sum).toNat = 65535 - fold sum := by
  rw [checksum, UInt16.toNat_ofNat']
  omega

/-- A checksum fills up the sum of the rest. -/
theorem onesSum_request (identifier sequence : UInt16) : onesSum (request identifier sequence) = 0xFFFF := by
  have opened : opening = octets 0x0800 := rfl
  have total : wordSum (request identifier sequence) =
      wordSum (opening ++ closing identifier sequence) +
        (65535 - fold (wordSum (opening ++ closing identifier sequence))) := by
    rw [request, List.append_assoc, opened, wordSum_octets_append, wordSum_octets_append, wordSum_octets_append,
      toNat_checksum]
    omega
  rw [← UInt16.toNat_inj, toNat_onesSum, total, fold_add_complement]
  rfl

/-! ### Headers -/

/-- A header of the internet protocol: its length in words of four octets, and all octets but the first. -/
structure InternetHeader where
  words : Nat
  others : List UInt8
  five_le_words : 5 ≤ words
  words_le_fifteen : words ≤ 15
  length_others : others.length + 1 = 4 * words

namespace InternetHeader

instance : Inhabited InternetHeader := ⟨5, List.replicate 19 0, by decide, by decide, rfl⟩

variable (header : InternetHeader)

/-- The first octet has the version and the length. -/
def octets : List UInt8 := UInt8.ofNat (0x40 + header.words) :: header.others

theorem length_octets : header.octets.length = 4 * header.words := by
  rw [octets, List.length_cons, header.length_others]

theorem toNat_first : (UInt8.ofNat (0x40 + header.words)).toNat = 0x40 + header.words := by
  have := header.words_le_fifteen
  rw [UInt8.toNat_ofNat']
  omega

theorem startsWithHeader_append (rest : List UInt8) : startsWithHeader (header.octets ++ rest) = true := by
  have := header.words_le_fifteen
  simp only [octets, startsWithHeader, List.cons_append, List.head?_cons, Option.any_some, highNibble, toNat_first,
    beq_iff_eq]
  omega

theorem afterHeader?_append (rest : List UInt8) : afterHeader? (header.octets ++ rest) = some rest := by
  have := header.five_le_words
  have := header.words_le_fifteen
  have length := header.length_octets
  have nibble : lowNibble (UInt8.ofNat (0x40 + header.words)) * 4 = header.octets.length := by
    rw [lowNibble, toNat_first, length]
    omega
  have enough : ¬((header.octets ++ rest).length < 20 ∨ (header.octets ++ rest).length < header.octets.length) := by
    rw [List.length_append]
    omega
  have first : header.octets ++ rest = UInt8.ofNat (0x40 + header.words) :: (header.others ++ rest) := rfl
  rw [first, afterHeader?, ← first, nibble, if_neg enough, List.drop_left]

theorem messageOf?_append (rest : List UInt8) (datagram : Bool) :
    messageOf? (header.octets ++ rest) datagram = some rest := by
  rw [messageOf?, startsWithHeader_append, Bool.not_true, Bool.and_false, if_neg Bool.false_ne_true,
    afterHeader?_append]

end InternetHeader

/-! ### What is read -/

theorem messageOf?_bare {data : List UInt8} (bare : startsWithHeader data = false) : messageOf? data true = some data := by
  rw [messageOf?, bare, Bool.not_false, Bool.and_true, if_pos rfl]

theorem sequenceOf?_eq {data rest : List UInt8} {kind code high low : UInt8} {identifier sequence : UInt16}
    {datagram : Bool} (found : messageOf? data datagram = some (message kind code high low identifier sequence rest))
    (ours : UInt16) : sequenceOf? data ours datagram =
      if kind = replyType ∧ (datagram = true ∨ ours = identifier) then some sequence else none := by
  rw [sequenceOf?, found]
  simp only [message, octets, List.cons_append, List.nil_append, word_octets]
  by_cases answer : kind = replyType
  · cases datagram with
    | true => simp [answer]
    | false => by_cases same : identifier = ours <;> simp [answer, same, eq_comm]
  · simp [answer]

/-- The sequence number of a request is read from each of its answers, whatever the answering host and the network put
around it, and from no request. -/
theorem answers_return_sequences (identifier sequence ours : UInt16) (header : InternetHeader) (high low : UInt8)
    (appended : List UInt8) :
    let sent := request identifier sequence
    let answer := answerTo sent high low ++ appended
    sent.length = 64 ∧ onesSum sent = 0xFFFF ∧
      (sequenceOf? (header.octets ++ answer) ours false = if ours = identifier then some sequence else none) ∧
      sequenceOf? (header.octets ++ answer) ours true = some sequence ∧
      sequenceOf? answer ours true = some sequence ∧
      (∀ datagram, sequenceOf? (header.octets ++ (sent ++ appended)) ours datagram = none) ∧
      sequenceOf? (sent ++ appended) ours true = none := by
  obtain ⟨first, second, written⟩ := request_eq identifier sequence
  have answered : answerTo (request identifier sequence) high low ++ appended =
      message replyType 0 high low identifier sequence (payload ++ appended) := by
    rw [written, answerTo_message, message_append]
  have repeated : request identifier sequence ++ appended =
      message requestType 0 first second identifier sequence (payload ++ appended) := by
    rw [written, message_append]
  have unlike : requestType ≠ replyType := by decide
  refine ⟨length_request identifier sequence, onesSum_request identifier sequence, ?raw, ?headed, ?bare, ?sent, ?sentBare⟩
  case raw =>
    rw [answered, sequenceOf?_eq (header.messageOf?_append _ _)]
    simp
  case headed =>
    rw [answered, sequenceOf?_eq (header.messageOf?_append _ _)]
    simp
  case bare =>
    rw [answered, sequenceOf?_eq (messageOf?_bare rfl)]
    simp
  case sent =>
    intro datagram
    rw [repeated, sequenceOf?_eq (header.messageOf?_append _ _), if_neg fun both => unlike both.1]
  case sentBare =>
    rw [repeated, sequenceOf?_eq (messageOf?_bare rfl), if_neg fun both => unlike both.1]

def headerWithOptions : InternetHeader := ⟨6, List.replicate 23 0xFF, by decide, by decide, rfl⟩

theorem behindOptions_returned :
    let answer := headerWithOptions.octets ++ (answerTo (request 1234 5678) 0 0 ++ [1, 2])
    sequenceOf? answer 1234 false = some 5678 ∧ sequenceOf? answer 4321 false = none := by
  constructor
  · obtain ⟨_, _, raw, _⟩ := answers_return_sequences 1234 5678 1234 headerWithOptions 0 0 [1, 2]
    exact raw.trans (if_pos rfl)
  · obtain ⟨_, _, raw, _⟩ := answers_return_sequences 1234 5678 4321 headerWithOptions 0 0 [1, 2]
    exact raw.trans (if_neg (by decide))

end RelayQuality.Echo
