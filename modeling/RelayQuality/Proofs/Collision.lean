import Mathlib.Data.List.Nodup
import RelayQuality.Proofs.Conservation

/-!
# Numbers in flight

Two probes in flight have one number exactly when a multiple of 65536 transmissions lies between them. A sweep
that makes fewer transmissions is safe. In a longer one a slow probe can meet its own number again.
-/

namespace RelayQuality.Sweep.History

/-- The table with the place of every entry's transmission among all, which count from zero. -/
structure Placed (sent : List Dispatch) (flying : List Probe) (flown : List (Probe × Nat)) : Prop where
  table : flown.map Prod.fst = flying
  ordered : flown.Pairwise fun a b => a.2 < b.2
  dispatched : ∀ e ∈ flown, sent.reverse[e.2]? = some e.1.dispatch
  numbered : ∀ e ∈ flown, e.1.sequence = UInt16.ofNat e.2

namespace Placed

variable {sent : List Dispatch} {flying : List Probe} {flown : List (Probe × Nat)}

theorem place_lt (placed : Placed sent flying flown) : ∀ e ∈ flown, e.2 < sent.length := by
  intro e member
  obtain ⟨inside, _⟩ := List.getElem?_eq_some_iff.mp (placed.dispatched e member)
  simpa using inside

/-- Probes may leave the table. -/
theorem leave {kept : List Probe} (placed : Placed sent flying flown) (sub : kept.Sublist flying) :
    ∃ rest, Placed sent kept rest := by
  rw [← placed.table] at sub
  obtain ⟨rest, fewer, rfl⟩ := List.sublist_map_iff.mp sub
  refine ⟨rest, rfl, placed.ordered.sublist fewer, ?_, ?_⟩
  · exact fun e member => placed.dispatched e (fewer.subset member)
  · exact fun e member => placed.numbered e (fewer.subset member)

/-- A transmission takes the next place. -/
theorem transmit {p : Probe} (placed : Placed sent flying flown) (number : p.sequence = UInt16.ofNat sent.length) :
    Placed (p.dispatch :: sent) (flying ++ [p]) (flown ++ [(p, sent.length)]) where
  table := by simp [placed.table]
  ordered := by
    rw [List.pairwise_append]
    refine ⟨placed.ordered, List.pairwise_singleton _ _, ?_⟩
    intro a member b last
    obtain rfl := List.mem_singleton.mp last
    exact placed.place_lt a member
  dispatched := by
    intro e member
    rw [List.reverse_cons]
    rcases List.mem_append.mp member with old | last
    · rw [List.getElem?_append_left (by simpa using placed.place_lt e old)]
      exact placed.dispatched e old
    · obtain rfl := List.mem_singleton.mp last
      simp
  numbered := by
    intro e member
    rcases List.mem_append.mp member with old | last
    · exact placed.numbered e old
    · obtain rfl := List.mem_singleton.mp last
      exact number

/-- Numbers collide where a multiple of 65536 lies between the places. -/
theorem nodup_iff (placed : Placed sent flying flown) :
    (flying.map Probe.sequence).Nodup ↔ flown.Pairwise fun a b => ¬ 65536 ∣ b.2 - a.2 := by
  have same : ∀ a b : Nat, a < b → (UInt16.ofNat a = UInt16.ofNat b ↔ 65536 ∣ b - a) := by
    intro a b order
    rw [← UInt16.toNat_inj, UInt16.toNat_ofNat', UInt16.toNat_ofNat']
    omega
  rw [← placed.table, List.map_map, List.Nodup, List.pairwise_map]
  -- both ways compare two entries at a time, and the order of the places says which of the two is the earlier
  constructor
  · intro differ
    refine (placed.ordered.and differ).imp_of_mem ?_
    rintro a b left right ⟨order, apart⟩ divides
    apply apart
    simp only [Function.comp_apply, placed.numbered a left, placed.numbered b right]
    exact (same a.2 b.2 order).mpr divides
  · intro apart
    refine (placed.ordered.and apart).imp_of_mem ?_
    rintro a b left right ⟨order, apart⟩ equal
    simp only [Function.comp_apply, placed.numbered a left, placed.numbered b right] at equal
    exact apart ((same a.2 b.2 order).mp equal)

end Placed

/-! ### Moves -/

/-- The next number counts the transmissions, and so do those in flight. -/
def Counted (h : History) : Prop :=
  h.sweep.nextSequence = UInt16.ofNat h.sent.length ∧ ∃ flown, Placed h.sent h.sweep.flying flown

variable {g h : History}

theorem move_counted (move : Move g h) (counted : Counted g) : Counted h := by
  obtain ⟨next, flown, placed⟩ := counted
  cases move with
  | @board _ _ _ number _ _ _ _ p now =>
    refine ⟨?_, _, placed.transmit (p := p.launched number now) next⟩
    rw [List.length_cons, UInt16.ofNat_add]
    exact congrArg (· + 1) next
  | @resend _ _ _ number _ _ _ _ p now left =>
    obtain ⟨rest, remain⟩ := placed.leave (List.sublist_cons_self _ _)
    refine ⟨?_, _, remain.transmit (p := p.resent number now) next⟩
    rw [List.length_cons, UInt16.ofNat_add]
    exact congrArg (· + 1) next
  | giveUp spent => exact ⟨next, placed.leave (List.sublist_cons_self _ _)⟩
  | answer before => exact ⟨next, placed.leave (List.Sublist.append_left (List.sublist_cons_self _ _) before)⟩

theorem follow_counted (counted : Counted h) (calls : List Call) : Counted (h.follow calls) :=
  follow_keeps move_counted counted calls

/-- A probe whose number is its own is the one that an answer finds. -/
theorem takeReply_of_nodup {s : Sweep} (distinct : (s.flying.map Probe.sequence).Nodup) {p : Probe}
    (member : p ∈ s.flying) (now : Nat) :
    s.takeReply p.sequence now = some (⟨p, now - p.sentAt⟩, { s with flying := s.flying.erase p }) := by
  cases taken : s.takeReply p.sequence now with
  | none => exact absurd rfl (takeReply_none taken p member)
  | some found =>
    obtain ⟨reply, rest⟩ := found
    obtain ⟨before, q, after, table, same, others, rfl, rfl⟩ := takeReply_splits taken
    have here : q ∈ s.flying := by simp [table]
    obtain rfl : q = p := List.inj_on_of_nodup_map distinct here member same
    have first : q ∉ before := fun earlier => others q earlier rfl
    rw [table, List.erase_append_right _ first, List.erase_cons_head]

/-- The numbers in flight differ exactly if no two of their places among the transmissions lie a multiple of 65536
apart. -/
theorem numbers_in_flight_differ_iff (timeout : Duration) (parallel retries : Nat) (earlier : Sweep)
    (records : List Probe) (calls : List Call) :
    let loaded : History := { sweep := load { earlier with pace := .ofLimits timeout parallel retries } records }
    let h := loaded.follow calls
    (∃ flown : List (Probe × Nat), flown.map Prod.fst = h.sweep.flying ∧
      (flown.Pairwise fun a b => a.2 < b.2) ∧
      (∀ e ∈ flown, h.sent.reverse[e.2]? = some e.1.dispatch) ∧
      ((h.sweep.flying.map Probe.sequence).Nodup ↔ flown.Pairwise fun a b => ¬ 65536 ∣ b.2 - a.2)) ∧
    (h.sent.length ≤ 65536 → (h.sweep.flying.map Probe.sequence).Nodup) ∧
    (records.length * (retries + 1) ≤ 65536 → (h.sweep.flying.map Probe.sequence).Nodup) ∧
    ((h.sweep.flying.map Probe.sequence).Nodup → ∀ p ∈ h.sweep.flying, ∀ now,
      h.sweep.takeReply p.sequence now =
        some (⟨p, now - p.sentAt⟩, { h.sweep with flying := h.sweep.flying.erase p })) := by
  intro loaded h
  have start : Counted loaded := ⟨rfl, [], rfl, .nil, nofun, nofun⟩
  obtain ⟨_, flown, placed⟩ := follow_counted start calls
  have conserved : Conserved records h := follow_conserved (load_conserved _ records) calls
  have pace : h.sweep.pace = .ofLimits timeout parallel retries := follow_pace loaded calls
  have bound := conserved.length_sent_le
  rw [pace] at bound
  have few : h.sent.length ≤ 65536 → (h.sweep.flying.map Probe.sequence).Nodup := by
    intro short
    refine placed.nodup_iff.mpr (placed.ordered.imp_of_mem ?_)
    intro a b _ right order divides
    have last : b.2 < h.sent.length := placed.place_lt b right
    have gap := Nat.le_of_dvd (Nat.sub_pos_of_lt order) divides
    omega
  refine ⟨⟨flown, placed.table, placed.ordered, placed.dispatched, placed.nodup_iff⟩, few, ?_, ?_⟩
  · exact fun small => few (Nat.le_trans bound small)
  · exact fun distinct p member now => takeReply_of_nodup distinct member now

/-! ### One slow probe -/

/-- One of many relays that lie equally near. -/
def neighbour (i : Nat) : Probe := { key := toString i, target := ⟨UInt32.ofNat i⟩, distance := ⟨0⟩ }

def neighbours (count : Nat) : List Probe := (List.range count).map neighbour

/-- The first probe gets no answer, while every later one is answered at once and makes room for the next. -/
def overtaking : Nat → List Call
  | 0 => [.fill 0]
  | n + 1 => overtaking n ++ [.takeReply (UInt16.ofNat (n + 1)) 0, .fill 0]

/-- Two in flight at a time, five seconds for an answer and two retries. -/
def twoAtATime : Pace := .ofLimits ⟨5, 0⟩ 2 2

theorem neighbours_succ (count : Nat) (rest : List Probe) :
    neighbours (count + 1) ++ rest = neighbours count ++ neighbour count :: rest := by
  simp [neighbours, List.range_succ]

theorem load_neighbours (s : Sweep) (count : Nat) :
    s.load (neighbours count) = { pace := s.pace, queue := neighbours count, total := count } := by
  have near : (neighbours count).Pairwise fun a b => a.distance.le b.distance := by
    rw [neighbours, List.pairwise_map]
    exact List.pairwise_of_forall_mem_list fun a _ b _ => Distance.le_refl _
  rw [load_of_ordered s near]
  simp [neighbours]

/-- The later of two probes makes room for the next one. -/
theorem overtake {p q next : Probe} {queue : List Probe} {k number : UInt16} {total : Nat}
    (there : h.sweep = ⟨twoAtATime, next :: queue, [p, q], number, total⟩) (later : q.sequence = k)
    (differ : p.sequence ≠ k) :
    (h.follow [.takeReply k 0, .fill 0]).sweep =
      ⟨twoAtATime, queue, [p, next.launched number 0], number + 1, total⟩ := by
  have answered : (h.call (.takeReply k 0)).sweep = ⟨twoAtATime, next :: queue, [p], number, total⟩ := by
    simp [call, takeReply, there, later, differ]
  have room : twoAtATime.parallel = 2 := rfl
  change (h.call (.takeReply k 0)).sweep.filled 0 = _
  simp [answered, filled, launches, launch, boarding, room]

theorem follow_overtaking {n : Nat} {rest : List Probe} {total : Nat} (short : n < 65536)
    (loaded : h.sweep = ⟨twoAtATime, neighbours (n + 2) ++ rest, [], 0, total⟩) :
    (h.follow (overtaking n)).sweep =
      ⟨twoAtATime, rest,
        [(neighbour 0).launched 0 0, (neighbour (n + 1)).launched (UInt16.ofNat (n + 1)) 0],
        UInt16.ofNat (n + 1) + 1, total⟩ := by
  -- the queue behind the first probes is arbitrary, since each step takes one more probe from it
  induction n generalizing rest with
  | zero =>
    have room : twoAtATime.parallel = 2 := rfl
    change h.sweep.filled 0 = _
    simp [loaded, filled, launches, launch, boarding, room, neighbours, List.range_succ]
  | succ n ih =>
    rw [neighbours_succ] at loaded
    have before := ih (Nat.lt_of_succ_lt short) loaded
    have differ : (0 : UInt16) ≠ UInt16.ofNat (n + 1) := by
      rw [Ne, ← UInt16.toNat_inj, UInt16.toNat_ofNat', UInt16.toNat_zero]
      omega
    have number : UInt16.ofNat (n + 1 + 1) = UInt16.ofNat (n + 1) + 1 := UInt16.ofNat_add _ 1
    rw [overtaking, follow_append, number]
    exact overtake before rfl differ

/-- After 65535 answers the slow probe shares its number with the latest one, whose answer it takes. -/
theorem slow_probe_meets_its_number :
    let loaded : History := { sweep := load { pace := .ofLimits ⟨5, 0⟩ 2 2 } (neighbours 65537) }
    let h := loaded.follow (overtaking 65535)
    let slow := (neighbour 0).launched 0 0
    let latest := (neighbour 65536).launched 0 0
    h.sweep.flying = [slow, latest] ∧ slow.target ≠ latest.target ∧
      ¬ (h.sweep.flying.map Probe.sequence).Nodup ∧
      h.sweep.takeReply latest.sequence 7 = some (⟨slow, 7⟩, { h.sweep with flying := [latest] }) := by
  intro loaded h slow latest
  have start : loaded.sweep = ⟨twoAtATime, neighbours (65535 + 2) ++ [], [], 0, 65537⟩ := by
    rw [List.append_nil]
    exact load_neighbours _ 65537
  have wrapped : UInt16.ofNat (65535 + 1) = 0 := by decide
  have flying : h.sweep.flying = [slow, latest] := by
    have state := follow_overtaking (n := 65535) (by omega) start
    rw [wrapped] at state
    have same : h = loaded.follow (overtaking 65535) := rfl
    rw [same, state]
  refine ⟨flying, by decide, ?_, ?_⟩
  · rw [flying]
    exact fun distinct => (List.nodup_cons.mp distinct).1 List.mem_cons_self
  · rw [takeReply, flying]
    rfl

end RelayQuality.Sweep.History
