import RelayQuality.Sweep

/-!
# Moves of the table

`expire` and `fill` move one probe at a time: a due probe goes to the back as a new transmission or is
given up, a queued probe is boarded. What these three moves keep, `walk_keeps` and `filled_keeps` carry
over to the whole call.
-/

namespace RelayQuality.Sweep

/-! ### Timeouts -/

theorem walk_keeps {pace : Pace} {now : Nat} {I : List Probe → List Dispatch → List Probe → UInt16 → Prop}
    (w : Walk)
    (resend : ∀ {p rest resent dropped n}, p.deadline pace.timeout ≤ now → p.retries < pace.retries →
      I (p :: rest) resent dropped n → I (rest ++ [p.resent n now]) (⟨p.target, n⟩ :: resent) dropped (n + 1))
    (giveUp : ∀ {p rest resent dropped n}, p.deadline pace.timeout ≤ now → pace.retries ≤ p.retries →
      I (p :: rest) resent dropped n → I rest resent (p :: dropped) n)
    (start : I w.table w.resent w.dropped w.sequence) :
    I (walk pace now w).table (walk pace now w).resent (walk pace now w).dropped (walk pace now w).sequence := by
  fun_induction walk pace now w with
  | case1 => exact start
  | case2 resent dropped n last earlier ih => exact ih (by simpa [Walk.table] using start)
  | case3 => exact start
  | case4 behind resent dropped n p rest late left ih =>
    exact ih (by simpa [Walk.table] using resend (Nat.le_of_not_lt late) left start)
  | case5 behind resent dropped n p rest late spent ih =>
    exact ih (by simpa [Walk.table] using giveUp (Nat.le_of_not_lt late) (Nat.le_of_not_lt spent) start)

/-- A walk ends before a probe that is not due. -/
theorem walk_settled {pace : Pace} {now : Nat} {w : Walk} {p : Probe} (front : (walk pace now w).table.head? = some p) :
    now < p.deadline pace.timeout := by
  fun_induction walk pace now w with
  | case1 => simp [Walk.table] at front
  | case2 resent dropped n last earlier ih => exact ih front
  | case3 behind resent dropped n q rest early =>
    simp only [Walk.table, List.cons_append, List.head?_cons, Option.some.injEq] at front
    exact front ▸ early
  | case4 behind resent dropped n q rest late left ih => exact ih front
  | case5 behind resent dropped n q rest late spent ih => exact ih front

/-- In a table in the order of transmission nobody is due before the front. -/
theorem undue_of_front {timeout now : Nat} {table : List Probe} (ordered : table.Pairwise (·.sentAt ≤ ·.sentAt))
    (front : ∀ p, table.head? = some p → now < p.deadline timeout) : ∀ p ∈ table, now < p.deadline timeout := by
  cases table with
  | nil => nofun
  | cons first rest =>
    have waits := front first rfl
    intro p member
    rcases List.mem_cons.mp member with rfl | behind
    · exact waits
    · have order := (List.pairwise_cons.mp ordered).1 p behind
      simp only [Probe.deadline, Millis.add] at waits ⊢
      omega

theorem expire_keeps (s : Sweep) (now : Nat) {I : List Probe → List Dispatch → List Probe → UInt16 → Prop}
    (resend : ∀ {p rest resent dropped n}, p.deadline s.pace.timeout ≤ now → p.retries < s.pace.retries →
      I (p :: rest) resent dropped n → I (rest ++ [p.resent n now]) (⟨p.target, n⟩ :: resent) dropped (n + 1))
    (giveUp : ∀ {p rest resent dropped n}, p.deadline s.pace.timeout ≤ now → s.pace.retries ≤ p.retries →
      I (p :: rest) resent dropped n → I rest resent (p :: dropped) n)
    (start : I s.flying [] [] s.nextSequence) :
    I (s.expired now).flying (s.expire now).1.retried.reverse (s.expire now).1.dropped.reverse
      (s.expired now).nextSequence := by
  have walked := walk_keeps ⟨s.flying, [], [], [], s.nextSequence⟩ resend giveUp (by simpa [Walk.table] using start)
  simpa [expired, expire, Sweep.walked] using walked

theorem expire_empty {s : Sweep} (empty : s.flying = []) (now : Nat) : s.expire now = (⟨[], []⟩, s) := by
  obtain ⟨pace, queue, flying, next, total⟩ := s
  obtain rfl : flying = [] := empty
  simp [expire, walked, walk, Walk.table]

@[simp] theorem expired_queue (s : Sweep) (now : Nat) : (s.expired now).queue = s.queue := rfl

theorem expired_settled {s : Sweep} {now : Nat} {p : Probe} (front : (s.expired now).flying.head? = some p) :
    now < p.deadline s.pace.timeout := walk_settled front

theorem length_expired_le (s : Sweep) (now : Nat) : (s.expired now).flying.length ≤ s.flying.length := by
  refine expire_keeps s now (I := fun table _ _ _ => table.length ≤ s.flying.length) ?_ ?_ (Nat.le_refl _)
  · intro p rest _ _ _ _ _ within
    simpa using within
  · intro p rest _ _ _ _ _ within
    exact Nat.le_of_succ_le within

/-! ### Sending -/

@[simp] theorem launch_nil (n : UInt16) (now : Nat) : launch n now [] = [] := rfl

/-- Numbers in a row go on from the next one. -/
theorem number_succ (n : UInt16) (i : Nat) : n + UInt16.ofNat (i + 1) = n + 1 + UInt16.ofNat i := by
  rw [UInt16.ofNat_add, UInt16.add_assoc, UInt16.add_comm (UInt16.ofNat i)]
  rfl

theorem launch_cons (n : UInt16) (now : Nat) (p : Probe) (probes : List Probe) :
    launch n now (p :: probes) = p.launched n now :: launch (n + 1) now probes := by
  simp only [launch, List.mapIdx_cons, number_succ]
  simp

theorem launch_keeps {now : Nat} {I : List Probe → List Probe → List Dispatch → UInt16 → Prop}
    (board : ∀ {p queue flying sent n}, I (p :: queue) flying sent n →
      I queue (flying ++ [p.launched n now]) (⟨p.target, n⟩ :: sent) (n + 1))
    {boarding queue flying : List Probe} {sent : List Dispatch} {n : UInt16}
    (start : I (boarding ++ queue) flying sent n) :
    I queue (flying ++ launch n now boarding) (((launch n now boarding).map Probe.dispatch).reverse ++ sent)
      (n + UInt16.ofNat boarding.length) := by
  induction boarding generalizing flying sent n with
  | nil => simpa using start
  | cons p boarding ih =>
    have boarded := ih (board start)
    rw [← number_succ] at boarded
    simpa [launch_cons, Probe.dispatch, Probe.launched] using boarded

/-- What holds of queue, table, transmissions and next number at the start, and survives every probe that
boards, holds when the table is full. -/
theorem filled_keeps (s : Sweep) (now : Nat) {I : List Probe → List Probe → List Dispatch → UInt16 → Prop}
    (board : ∀ {p queue flying sent n}, I (p :: queue) flying sent n →
      I queue (flying ++ [p.launched n now]) (⟨p.target, n⟩ :: sent) (n + 1))
    (sent : List Dispatch) (start : I s.queue s.flying sent s.nextSequence) :
    I (s.filled now).queue (s.filled now).flying ((s.fill now).1.reverse ++ sent) (s.filled now).nextSequence := by
  have split : s.boarding ++ (s.filled now).queue = s.queue := List.take_append_drop _ _
  exact launch_keeps (I := I) board (by rw [split]; exact start)

theorem length_filled (s : Sweep) (now : Nat) :
    (s.filled now).flying.length + (s.filled now).queue.length = s.flying.length + s.queue.length := by
  refine filled_keeps s now
    (I := fun queue flying _ _ => flying.length + queue.length = s.flying.length + s.queue.length) ?_ [] rfl
  intro p queue flying _ _ same
  simp only [List.length_append, List.length_cons, List.length_nil] at same ⊢
  omega

/-! ### Answers -/

/-- The sweep without the first probe in flight under a number. -/
def answered (s : Sweep) (n : UInt16) : Sweep := { s with flying := s.flying.eraseP (·.sequence == n) }

theorem takeReply_none {s : Sweep} {n : UInt16} {now : Nat} (missed : s.takeReply n now = none) :
    ∀ p ∈ s.flying, p.sequence ≠ n := by
  unfold takeReply at missed
  split at missed
  next unknown =>
    intro p member same
    exact List.find?_eq_none.mp unknown p member (beq_iff_eq.mpr same)
  next => cases missed

theorem takeReply_some {s rest : Sweep} {n : UInt16} {now : Nat} {reply : Reply}
    (taken : s.takeReply n now = some (reply, rest)) :
    ∃ p ∈ s.flying, p.sequence = n ∧ reply = ⟨p, now - p.sentAt⟩ ∧ rest = s.answered n := by
  unfold takeReply at taken
  split at taken
  next => cases taken
  next p found =>
    obtain ⟨rfl, rfl⟩ := Prod.mk.inj (Option.some.inj taken)
    exact ⟨p, List.mem_of_find?_eq_some found, by simpa using List.find?_some found, rfl, rfl⟩

/-- The probe that is answered is the one that leaves the table, the first under its number. -/
theorem takeReply_splits {s rest : Sweep} {n : UInt16} {now : Nat} {reply : Reply}
    (taken : s.takeReply n now = some (reply, rest)) :
    ∃ before p after, s.flying = before ++ p :: after ∧ p.sequence = n ∧ (∀ q ∈ before, q.sequence ≠ n) ∧
      reply = ⟨p, now - p.sentAt⟩ ∧ rest = { s with flying := before ++ after } := by
  unfold takeReply at taken
  split at taken
  next => cases taken
  next p found =>
    obtain ⟨rfl, rfl⟩ := Prod.mk.inj (Option.some.inj taken)
    obtain ⟨same, before, after, table, others⟩ := List.find?_eq_some_iff_append.mp found
    have earlier : ∀ q ∈ before, ¬ (q.sequence == n) = true := by
      intro q member
      simpa using others q member
    refine ⟨before, p, after, table, beq_iff_eq.mp same, ?_, rfl, ?_⟩
    · intro q member
      exact fun here => earlier q member (beq_iff_eq.mpr here)
    · have first : (p :: after).eraseP (·.sequence == n) = after := List.eraseP_cons_of_pos same
      rw [table, List.eraseP_append_right _ earlier, first]

end RelayQuality.Sweep
