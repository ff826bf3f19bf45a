import Mathlib.Algebra.Ring.Nat
import RelayQuality.Proofs.Numbering
import RelayQuality.Proofs.Table

/-!
# Rounds of a look for timeouts

`expire` goes over one table in rounds: a round takes the front, if it is due, and puts it to the back or out. What goes to
the back may be due at once, so the table need not get shorter, but each round uses up one timeout of a probe. That bounds
the rounds, and the retries of a probe never come to more than they may.
-/

namespace RelayQuality.Sweep

/-- A look for timeouts under way: the table, and what was sent again and given up so far, latest first. -/
structure Look where
  table : List Probe
  resent : List Dispatch := []
  dropped : List Probe := []
  /-- The number of the next transmission. -/
  sequence : UInt16
deriving DecidableEq, Repr

/-- One round, unless the table is empty or its front is not due. -/
def round? (pace : Pace) (now : Nat) : Look → Option Look
  | ⟨[], _, _, _⟩ => none
  | ⟨p :: rest, resent, dropped, n⟩ =>
    if now < p.deadline pace.timeout then none
    else if p.retries < pace.retries then
      some ⟨rest ++ [p.resent n now], ⟨p.target, n⟩ :: resent, dropped, n + 1⟩
    else some ⟨rest, resent, p :: dropped, n⟩

/-- So many rounds, if there are so many. -/
def rounds? (pace : Pace) (now : Nat) : Nat → Look → Option Look
  | 0, look => some look
  | k + 1, look => (rounds? pace now k look).bind (round? pace now)

/-- The look that begins with the table of a sweep. -/
def opened (s : Sweep) : Look := { table := s.flying, sequence := s.nextSequence }

/-- The look as `expire` leaves it. -/
def closed (s : Sweep) (now : Nat) : Look :=
  ⟨(s.expired now).flying, (s.expire now).1.retried.reverse, (s.expire now).1.dropped.reverse,
    (s.expired now).nextSequence⟩

variable {pace : Pace} {now k : Nat} {start look after : Look}

/-! ### One round -/

theorem round?_resend {p : Probe} {rest : List Probe} {resent : List Dispatch} {dropped : List Probe} {n : UInt16}
    (due : p.deadline pace.timeout ≤ now) (left : p.retries < pace.retries) :
    round? pace now ⟨p :: rest, resent, dropped, n⟩ =
      some ⟨rest ++ [p.resent n now], ⟨p.target, n⟩ :: resent, dropped, n + 1⟩ := by
  rw [round?, if_neg (Nat.not_lt_of_le due), if_pos left]

theorem round?_giveUp {p : Probe} {rest : List Probe} {resent : List Dispatch} {dropped : List Probe} {n : UInt16}
    (due : p.deadline pace.timeout ≤ now) (spent : pace.retries ≤ p.retries) :
    round? pace now ⟨p :: rest, resent, dropped, n⟩ = some ⟨rest, resent, p :: dropped, n⟩ := by
  rw [round?, if_neg (Nat.not_lt_of_le due), if_neg (Nat.not_lt_of_le spent)]

theorem round?_eq_none (waits : ∀ p, look.table.head? = some p → now < p.deadline pace.timeout) :
    round? pace now look = none := by
  obtain ⟨table, resent, dropped, n⟩ := look
  cases table with
  | nil => rfl
  | cons p rest => rw [round?, if_pos (waits p rfl)]

/-- What is due, and what becomes of it. -/
theorem round?_eq_some (next : round? pace now look = some after) :
    ∃ p rest, look.table = p :: rest ∧
      (p.retries < pace.retries ∧
        after = ⟨rest ++ [p.resent look.sequence now], ⟨p.target, look.sequence⟩ :: look.resent, look.dropped,
          look.sequence + 1⟩ ∨
      pace.retries ≤ p.retries ∧ after = ⟨rest, look.resent, p :: look.dropped, look.sequence⟩) := by
  obtain ⟨table, resent, dropped, n⟩ := look
  cases table with
  | nil => cases next
  | cons p rest =>
    refine ⟨p, rest, rfl, ?_⟩
    rw [round?] at next
    split at next
    next => cases next
    next =>
      split at next
      next left => exact .inl ⟨left, (Option.some.inj next).symm⟩
      next spent => exact .inr ⟨Nat.le_of_not_lt spent, (Option.some.inj next).symm⟩

/-! ### All rounds -/

theorem credits_eq_sum (retries : Nat) (probes : List Probe) :
    credits retries probes = (probes.map fun p => retries + 1 - p.retries).sum := by
  induction probes with
  | nil => rfl
  | cons p rest ih => rw [credits_cons, ih, List.map_cons, List.sum_cons, credit]

theorem spare_eq_sum (retries : Nat) (probes : List Probe) :
    spare retries probes = (probes.map fun p => retries - p.retries).sum := by
  induction probes with
  | nil => rfl
  | cons p rest ih => rw [spare_cons, ih, List.map_cons, List.sum_cons]

/-- After so many rounds, what was used up and what is left make what there was. -/
structure Paid (retries : Nat) (start : List Probe) (k : Nat) (look : Look) : Prop where
  within : ∀ p ∈ look.table, p.retries ≤ retries
  counted : look.resent.length + look.dropped.length = k
  credits : credits retries look.table + k = credits retries start
  spare : spare retries look.table + look.resent.length = spare retries start

theorem Paid.round {table : List Probe} (paid : Paid pace.retries table k look)
    (next : round? pace now look = some after) : Paid pace.retries table (k + 1) after := by
  obtain ⟨p, rest, front, step⟩ := round?_eq_some next
  obtain ⟨within, counted, credits, spare⟩ := paid
  rw [front] at within credits spare
  obtain ⟨here, others⟩ := List.forall_mem_cons.mp within
  rw [credits_cons, credit] at credits
  rw [spare_cons] at spare
  -- what goes to the back has one transmission less, what goes out has none left
  rcases step with ⟨left, rfl⟩ | ⟨spent, rfl⟩
  · refine ⟨List.forall_mem_append.mpr ⟨others, List.forall_mem_singleton.mpr left⟩, ?_, ?_, ?_⟩
    · simp only [List.length_cons]
      omega
    · simp only [credits_append, credits_cons, credits_nil, credit, Probe.resent]
      omega
    · simp only [spare_append, spare_cons, spare_nil, Probe.resent, List.length_cons]
      omega
  · refine ⟨others, ?_, ?_, ?_⟩ <;> dsimp only
    · rw [List.length_cons]
      omega
    · omega
    · omega

theorem rounds?_paid {s : Sweep} (within : ∀ p ∈ s.flying, p.retries ≤ s.pace.retries)
    (reached : rounds? s.pace now k s.opened = some look) : Paid s.pace.retries s.flying k look := by
  induction k generalizing look with
  | zero =>
    obtain rfl := Option.some.inj reached
    exact ⟨within, rfl, rfl, rfl⟩
  | succ k ih =>
    obtain ⟨before, earlier, next⟩ := Option.bind_eq_some_iff.mp reached
    exact (ih earlier).round next

/-- After the last round there is none. -/
theorem rounds?_le {rounds : Nat} {last : Look} (ends : rounds? pace now rounds start = some last)
    (settled : round? pace now last = none) (reached : rounds? pace now k start = some look) : k ≤ rounds := by
  have beyond (more : Nat) : rounds? pace now (rounds + more + 1) start = none := by
    induction more with
    | zero => rw [Nat.add_zero, rounds?, ends, Option.bind_some, settled]
    | succ more ih => rw [← Nat.add_assoc, rounds?, ih, Option.bind_none]
  by_contra later
  obtain ⟨more, rfl⟩ := Nat.exists_eq_add_of_lt (Nat.lt_of_not_le later)
  exact nomatch (beyond more).symm.trans reached

/-- A look for timeouts is its rounds, up to the first front that is not due. -/
theorem expire_rounds (s : Sweep) (now : Nat) :
    ∃ rounds, rounds? s.pace now rounds s.opened = some (s.closed now) ∧ round? s.pace now (s.closed now) = none := by
  have reached : ∃ rounds, rounds? s.pace now rounds s.opened = some (s.closed now) := by
    refine expire_keeps s now
      (I := fun table resent dropped n => ∃ k, rounds? s.pace now k s.opened = some ⟨table, resent, dropped, n⟩) ?_ ?_ ?_
    · rintro p rest resent dropped n due left ⟨k, before⟩
      exact ⟨k + 1, by rw [rounds?, before, Option.bind_some, round?_resend due left]⟩
    · rintro p rest resent dropped n due spent ⟨k, before⟩
      exact ⟨k + 1, by rw [rounds?, before, Option.bind_some, round?_giveUp due spent]⟩
    · exact ⟨0, rfl⟩
  obtain ⟨rounds, ends⟩ := reached
  exact ⟨rounds, ends, round?_eq_none fun _ front => expired_settled front⟩

theorem closed_eq (s : Sweep) (now : Nat) :
    s.expire now = (⟨(s.closed now).resent.reverse, (s.closed now).dropped.reverse⟩,
      { s with flying := (s.closed now).table, nextSequence := (s.closed now).sequence }) := by
  simp [closed, expired, expire]

theorem toNat_retry {most : UInt8} {retries : Nat} (left : retries < most.toNat) :
    (UInt8.ofNat retries + 1).toNat = retries + 1 := by
  have := most.toNat_lt
  rw [UInt8.toNat_add, UInt8.toNat_ofNat', UInt8.toNat_one]
  omega

/-- A look for timeouts ends within as many rounds as its probes have transmissions left and one more for each, and
never counts a retry beyond those that are allowed. -/
theorem expiry_ends_in_time {s : Sweep} {timeout : Duration} {parallel : Nat} {most : UInt8}
    (paced : s.pace = .ofLimits timeout parallel most.toNat) (within : ∀ p ∈ s.flying, p.retries ≤ most.toNat)
    (now : Nat) :
    ∃ rounds last, rounds? s.pace now rounds s.opened = some last ∧ round? s.pace now last = none ∧
      s.expire now = (⟨last.resent.reverse, last.dropped.reverse⟩,
        { s with flying := last.table, nextSequence := last.sequence }) ∧
      rounds = (s.expire now).1.retried.length + (s.expire now).1.dropped.length ∧
      rounds ≤ (s.flying.map fun p => most.toNat - p.retries + 1).sum ∧
      (s.expire now).1.retried.length ≤ (s.flying.map fun p => most.toNat - p.retries).sum ∧
      ∀ k look, rounds? s.pace now k s.opened = some look → k ≤ rounds ∧ ∀ p ∈ look.table,
        p.retries ≤ most.toNat ∧ (p.retries < most.toNat → (UInt8.ofNat p.retries + 1).toNat = p.retries + 1) := by
  have allowed : s.pace.retries = most.toNat := by rw [paced]; rfl
  have within' : ∀ p ∈ s.flying, p.retries ≤ s.pace.retries := allowed ▸ within
  have stock : credits s.pace.retries s.flying = (s.flying.map fun p => most.toNat - p.retries + 1).sum := by
    rw [credits_eq_sum, allowed]
    refine congrArg List.sum (List.map_congr_left fun p member => ?_)
    exact Nat.sub_add_comm (within p member)
  have reserve : spare s.pace.retries s.flying = (s.flying.map fun p => most.toNat - p.retries).sum := by
    rw [spare_eq_sum, allowed]
  obtain ⟨rounds, ends, settled⟩ := expire_rounds s now
  obtain ⟨_, counted, credits, spare⟩ := rounds?_paid within' ends
  simp only [closed, List.length_reverse] at counted credits spare
  rw [← stock, ← reserve]
  refine ⟨rounds, s.closed now, ends, settled, closed_eq s now, counted.symm, ?_, ?_, ?_⟩
  · exact Nat.le_of_add_left_le (Nat.le_of_eq credits)
  · exact Nat.le_of_add_left_le (Nat.le_of_eq spare)
  · intro k look reached
    refine ⟨rounds?_le ends settled reached, fun p member => ?_⟩
    have count := (rounds?_paid within' reached).within p member
    exact ⟨allowed ▸ count, toNat_retry⟩

/-- Nothing is waited for, so that each transmission is due at once; one of the two probes was sent again before. -/
def impatient : Sweep where
  pace := .ofLimits ⟨0, 0⟩ 8 2
  flying :=
    [{ key := "a", target := .ofOctets 10 0 0 1, distance := ⟨0⟩, sequence := 0 },
      { key := "b", target := .ofOctets 10 0 0 2, distance := ⟨0⟩, sequence := 2, retries := 1 }]
  nextSequence := 3
  total := 2

/-- All transmissions that are left are made, and there are no more rounds than that takes. -/
theorem impatient_ends :
    impatient.pace = .ofLimits ⟨0, 0⟩ 8 (2 : UInt8).toNat ∧ (∀ p ∈ impatient.flying, p.retries ≤ (2 : UInt8).toNat) ∧
    ∃ last, rounds? impatient.pace 9 5 impatient.opened = some last ∧ round? impatient.pace 9 last = none ∧
      (impatient.expire 9).1.retried.map (·.sequence) = [3, 4, 5] ∧
      (impatient.expire 9).1.dropped.map (·.key) = ["b", "a"] := by
  have paced : impatient.pace = .ofLimits ⟨0, 0⟩ 8 (2 : UInt8).toNat := rfl
  have within : ∀ p ∈ impatient.flying, p.retries ≤ (2 : UInt8).toNat := by decide
  obtain ⟨rounds, last, ends, settled, same, _, most, _, longest⟩ := expiry_ends_in_time paced within 9
  obtain ⟨look, five⟩ : ∃ look, rounds? impatient.pace 9 5 impatient.opened = some look := ⟨_, rfl⟩
  obtain rfl : rounds = 5 := Nat.le_antisymm most (longest 5 look five).1
  refine ⟨paced, within, last, ends, settled, ?_⟩
  cases ends
  rw [same]
  exact ⟨rfl, rfl⟩

end RelayQuality.Sweep
