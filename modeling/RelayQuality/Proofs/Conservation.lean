import Mathlib.Algebra.Order.BigOperators.Group.List
import Mathlib.Algebra.Order.Group.Nat
import RelayQuality.Proofs.History

/-!
# Conservation of probes

A loaded probe is queued, in flight, answered or given up, and in one of these places only. How often it was
sent can be read off its retries. `Conserved` says so of a history, and every move keeps it.
-/

namespace RelayQuality

namespace Probe

/-- The probe as it was loaded, without what a transmission writes on it. -/
def blank (p : Probe) : Probe := { p with sequence := 0, sentAt := 0, retries := 0 }

/-- The latest transmission, as the probe and the number of the retry. -/
def attempt (p : Probe) : Probe × Nat := (p.blank, p.retries)

/-- The first transmission and one for each retry. -/
def attempts (p : Probe) : List (Probe × Nat) := (List.range (p.retries + 1)).map (p.blank, ·)

@[simp] theorem blank_launched (p : Probe) (n : UInt16) (now : Nat) : (p.launched n now).blank = p.blank := rfl

@[simp] theorem blank_resent (p : Probe) (n : UInt16) (now : Nat) : (p.resent n now).blank = p.blank := rfl

theorem attempts_launched (p : Probe) (n : UInt16) (now : Nat) :
    (p.launched n now).attempts = [(p.launched n now).attempt] := rfl

theorem attempts_resent (p : Probe) (n : UInt16) (now : Nat) :
    (p.resent n now).attempts = p.attempts ++ [(p.resent n now).attempt] := by
  simp [attempts, attempt, resent, List.range_succ, blank]

theorem length_attempts (p : Probe) : p.attempts.length = p.retries + 1 := by
  simp [attempts]

end Probe

namespace Sweep.History

/-- The probes that were sent, wherever they are now. -/
def launched (h : History) : List Probe := h.sweep.flying ++ h.answered ++ h.dropped

/-- The transmissions are those that the retries of the launched probes tell of, and the latest of each
probe is among them as the probe stands. -/
def Sent (sent : List Dispatch) (launched : List Probe) : Prop :=
  ∃ made : List Probe, made.map Probe.dispatch = sent ∧
    (made.map Probe.attempt).Perm (launched.flatMap Probe.attempts) ∧ ∀ p ∈ launched, p ∈ made

/-- No probe is lost or doubled, and none is sent more or less often than its retries say. -/
structure Conserved (records : List Probe) (h : History) : Prop where
  total : h.sweep.total = records.length
  whole : ((h.sweep.queue ++ h.launched).map Probe.blank).Perm (records.map Probe.blank)
  sent : Sent h.sent h.launched
  within : ∀ p ∈ h.sweep.flying ++ h.answered, p.retries ≤ h.sweep.pace.retries
  spent : ∀ p ∈ h.dropped, p.retries = h.sweep.pace.retries

variable {records : List Probe} {g h : History}

/-! ### Transmissions -/

theorem Sent.of_perm {sent : List Dispatch} {before after : List Probe} (same : before.Perm after)
    (made : Sent sent before) : Sent sent after := by
  obtain ⟨made, dispatched, attempts, latest⟩ := made
  refine ⟨made, dispatched, attempts.trans (same.flatMap_right _), ?_⟩
  intro p member
  exact latest p (same.mem_iff.mpr member)

/-- One more transmission, of a new probe or of one that was sent before. -/
theorem Sent.add {sent : List Dispatch} {before after : List Probe} {q : Probe} (made : Sent sent before)
    (attempts : (q.attempt :: before.flatMap Probe.attempts).Perm (after.flatMap Probe.attempts))
    (others : ∀ p ∈ after, p = q ∨ p ∈ before) : Sent (q.dispatch :: sent) after := by
  obtain ⟨made, dispatched, all, latest⟩ := made
  refine ⟨q :: made, by rw [List.map_cons, dispatched], (all.cons _).trans attempts, ?_⟩
  intro p member
  rcases others p member with rfl | old
  · exact List.mem_cons_self
  · exact List.mem_cons_of_mem _ (latest p old)

theorem Sent.length {sent : List Dispatch} {launched : List Probe} (made : Sent sent launched) :
    sent.length = (launched.flatMap Probe.attempts).length := by
  obtain ⟨made, rfl, attempts, _⟩ := made
  have same := attempts.length_eq
  rwa [List.length_map] at same ⊢

/-! ### Moves -/

/-- One more transmission, which leaves the launched probes as they are but for the one that is sent. -/
theorem Conserved.transmit {q : Probe} (conserved : Conserved records g) (total : h.sweep.total = g.sweep.total)
    (pace : h.sweep.pace = g.sweep.pace) (sent : h.sent = q.dispatch :: g.sent) (dropped : h.dropped = g.dropped)
    (whole : ((h.sweep.queue ++ h.launched).map Probe.blank).Perm ((g.sweep.queue ++ g.launched).map Probe.blank))
    (attempts : (q.attempt :: g.launched.flatMap Probe.attempts).Perm (h.launched.flatMap Probe.attempts))
    (others : ∀ p ∈ h.sweep.flying ++ h.answered, p = q ∨ p ∈ g.sweep.flying ++ g.answered)
    (left : q.retries ≤ g.sweep.pace.retries) : Conserved records h := by
  refine ⟨total.trans conserved.total, whole.trans conserved.whole, ?_, ?_, ?_⟩
  · rw [sent]
    refine conserved.sent.add attempts ?_
    intro p member
    rcases List.mem_append.mp member with here | given
    · exact (others p here).imp_right (List.mem_append_left _)
    · exact Or.inr (List.mem_append_right _ (dropped ▸ given))
  · rw [pace]
    intro p member
    rcases others p member with rfl | old
    · exact left
    · exact conserved.within p old
  · rw [pace, dropped]
    exact conserved.spent

/-- Probes may leave the table, which only brings the launched ones into another order. -/
theorem Conserved.leave (conserved : Conserved records g) (total : h.sweep.total = g.sweep.total)
    (pace : h.sweep.pace = g.sweep.pace) (queue : h.sweep.queue = g.sweep.queue) (sent : h.sent = g.sent)
    (same : g.launched.Perm h.launched)
    (others : ∀ p ∈ h.sweep.flying ++ h.answered, p ∈ g.sweep.flying ++ g.answered)
    (spent : ∀ p ∈ h.dropped, p.retries = g.sweep.pace.retries) : Conserved records h := by
  refine ⟨total.trans conserved.total, ?_, ?_, ?_, ?_⟩
  · rw [queue]
    exact ((same.append_left _).map _).symm.trans conserved.whole
  · rw [sent]
    exact conserved.sent.of_perm same
  · rw [pace]
    exact fun p member => conserved.within p (others p member)
  · rw [pace]
    exact spent

theorem move_conserved (move : Move g h) (conserved : Conserved records g) : Conserved records h := by
  -- a move only carries a probe to another list, so that counting each probe shows the permutations
  cases move with
  | @board pace queue flying next _ _ answered dropped p now =>
    refine conserved.transmit (q := p.launched next now) rfl rfl rfl rfl ?_ ?_ ?_ (Nat.zero_le _)
    · rw [List.perm_iff_count]
      intro q
      simp [launched, List.count_cons]
      omega
    · rw [List.perm_iff_count]
      intro q
      simp [launched, List.count_cons, Probe.attempts_launched]
      omega
    · intro q member
      simp only [List.mem_append, List.mem_singleton] at member ⊢
      tauto
  | @resend pace queue flying next _ _ answered dropped p now left =>
    refine conserved.transmit (q := p.resent next now) rfl rfl rfl rfl ?_ ?_ ?_ left
    · rw [List.perm_iff_count]
      intro q
      simp [launched, List.count_cons]
      omega
    · rw [List.perm_iff_count]
      intro q
      simp [launched, List.count_cons, Probe.attempts_resent]
      omega
    · intro q member
      simp only [List.mem_append, List.mem_cons] at member ⊢
      tauto
  | @giveUp pace queue flying next _ _ answered dropped p exhausted =>
    refine conserved.leave rfl rfl rfl rfl ?_ ?_ ?_
    · simp only [launched, List.cons_append]
      exact List.perm_middle.symm
    · exact fun q member => List.mem_cons_of_mem _ member
    · refine List.forall_mem_cons.mpr ⟨?_, conserved.spent⟩
      exact Nat.le_antisymm (conserved.within p List.mem_cons_self) exhausted
  | @answer pace queue next _ _ answered dropped before after p =>
    refine conserved.leave rfl rfl rfl rfl ?_ ?_ conserved.spent
    · rw [List.perm_iff_count]
      intro q
      simp [launched, List.count_cons]
      omega
    · intro q member
      simp only [List.mem_append, List.mem_cons] at member ⊢
      tauto

theorem load_conserved (s : Sweep) (records : List Probe) : Conserved records { sweep := s.load records } where
  total := rfl
  whole := by simpa [launched, load] using (List.mergeSort_perm records _).map Probe.blank
  sent := ⟨[], rfl, .refl _, nofun⟩
  within := nofun
  spent := nofun

theorem follow_conserved (conserved : Conserved records h) (calls : List Call) :
    Conserved records (h.follow calls) :=
  follow_keeps move_conserved conserved calls

/-! ### Counts -/

theorem Conserved.length_eq (conserved : Conserved records h) :
    h.sweep.total =
      h.sweep.queue.length + h.sweep.flying.length + h.answered.length + h.dropped.length := by
  have same := conserved.whole.length_eq
  simp only [launched, List.length_map, List.length_append] at same
  have total := conserved.total
  omega

theorem Conserved.finished_eq (conserved : Conserved records h) :
    h.finished = h.answered.length + h.dropped.length := by
  have same := conserved.length_eq
  unfold finished
  omega

/-- A sweep sends no more than its records can need. -/
theorem Conserved.length_sent_le (conserved : Conserved records h) :
    h.sent.length ≤ records.length * (h.sweep.pace.retries + 1) := by
  have each : ∀ n ∈ h.launched.map fun p => p.attempts.length, n ≤ h.sweep.pace.retries + 1 := by
    intro n member
    obtain ⟨p, launched, rfl⟩ := List.mem_map.mp member
    rw [Probe.length_attempts]
    rcases List.mem_append.mp launched with here | given
    · exact Nat.succ_le_succ (conserved.within p here)
    · exact Nat.succ_le_succ (Nat.le_of_eq (conserved.spent p given))
  have bound := List.sum_le_card_nsmul _ _ each
  have few : h.launched.length ≤ records.length := by
    have same := conserved.whole.length_eq
    simp only [List.length_map, List.length_append] at same
    omega
  rw [List.length_map, Nat.nsmul_eq_mul] at bound
  rw [conserved.sent.length, List.length_flatMap]
  exact Nat.le_trans bound (Nat.mul_le_mul_right _ few)

theorem follow_pace (h : History) (calls : List Call) : (h.follow calls).sweep.pace = h.sweep.pace := by
  refine follow_keeps (I := fun g => g.sweep.pace = h.sweep.pace) ?_ rfl calls
  rintro f g move same
  cases move <;> exact same

/-- What is through stays through. -/
theorem follow_finished_le (h : History) (calls : List Call) :
    h.answered.length + h.dropped.length ≤ (h.follow calls).answered.length + (h.follow calls).dropped.length := by
  refine follow_keeps
    (I := fun g => h.answered.length + h.dropped.length ≤ g.answered.length + g.dropped.length) ?_ (Nat.le_refl _) calls
  rintro f g move before
  cases move <;> simp only [List.length_cons] at before ⊢ <;> omega

theorem follow_append (h : History) (calls more : List Call) :
    h.follow (calls ++ more) = (h.follow calls).follow more := List.foldl_append

theorem call_fits (c : Call) (fits : h.sweep.flying.length ≤ h.sweep.pace.parallel) :
    (h.call c).sweep.flying.length ≤ (h.call c).sweep.pace.parallel := by
  cases c with
  | fill now =>
    have table : (h.call (.fill now)).sweep.flying = h.sweep.flying ++ h.sweep.launches now := rfl
    have boarding : (h.sweep.launches now).length ≤ h.sweep.pace.parallel - h.sweep.flying.length := by
      simp [launches, launch, Sweep.boarding]
    rw [table, List.length_append]
    change _ ≤ h.sweep.pace.parallel
    omega
  | expire now => exact Nat.le_trans (length_expired_le h.sweep now) fits
  | takeReply k now =>
    simp only [call]
    split
    next => exact fits
    next reply rest taken =>
      obtain ⟨before, p, after, table, _, _, _, rfl⟩ := takeReply_splits taken
      rw [table] at fits
      simp only [List.length_append, List.length_cons] at fits ⊢
      omega

theorem follow_fits (fits : h.sweep.flying.length ≤ h.sweep.pace.parallel) (calls : List Call) :
    (h.follow calls).sweep.flying.length ≤ (h.follow calls).sweep.pace.parallel := by
  induction calls generalizing h with
  | nil => exact fits
  | cons c rest ih => exact ih (call_fits c fits)

/-- Each record is queued, in flight, answered or given up, and was transmitted once for each number up to its retries.
-/
theorem records_are_conserved (timeout : Duration) (parallel retries : Nat) (earlier : Sweep) (records : List Probe)
    (calls : List Call) :
    let loaded : History := { sweep := load { earlier with pace := .ofLimits timeout parallel retries } records }
    let h := loaded.follow calls
    ((h.sweep.queue ++ h.sweep.flying ++ h.answered ++ h.dropped).map Probe.blank).Perm (records.map Probe.blank) ∧
    (∃ made : List Probe, made.map Probe.dispatch = h.sent ∧
      (made.map Probe.attempt).Perm ((h.sweep.flying ++ h.answered ++ h.dropped).flatMap Probe.attempts) ∧
      ∀ p ∈ h.sweep.flying ++ h.answered ++ h.dropped, p ∈ made) ∧
    (∀ p ∈ h.sweep.flying ++ h.answered, p.retries ≤ retries) ∧
    (∀ p ∈ h.dropped, p.retries = retries) ∧
    h.sweep.flying.length ≤ max 1 parallel ∧
    h.sweep.total = records.length ∧
    h.sweep.total - h.sweep.flying.length - h.sweep.queue.length = h.answered.length + h.dropped.length ∧
    ∀ more, h.finished ≤ (loaded.follow (calls ++ more)).finished := by
  intro loaded h
  have conserved : Conserved records h := follow_conserved (load_conserved _ records) calls
  have pace : h.sweep.pace = .ofLimits timeout parallel retries := follow_pace loaded calls
  have allowed : h.sweep.pace.retries = retries := by rw [pace, Pace.ofLimits]
  have fits : h.sweep.flying.length ≤ h.sweep.pace.parallel := follow_fits (Nat.zero_le _) calls
  refine ⟨?_, conserved.sent, ?_, ?_, ?_, conserved.total, conserved.finished_eq, ?_⟩
  · simpa only [launched, List.append_assoc] using conserved.whole
  · exact allowed ▸ conserved.within
  · exact allowed ▸ conserved.spent
  · rw [pace] at fits
    exact Nat.le_trans fits (Nat.le_of_eq (Nat.max_comm parallel 1))
  · intro more
    rw [follow_append, conserved.finished_eq, (follow_conserved conserved more).finished_eq]
    exact follow_finished_le h more

end Sweep.History

end RelayQuality
