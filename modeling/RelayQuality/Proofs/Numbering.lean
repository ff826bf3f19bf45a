import Mathlib.Data.List.Nodup
import RelayQuality.Proofs.Course

/-!
# Numbers of transmissions

The numbers of a sweep count its transmissions from zero and start over after 65536. `Ledger` ties the table
of probes in flight to the transmissions made so far, latest first. The room it keeps for what may still
be sent is why no number comes back within a sweep.
-/

namespace RelayQuality.Sweep

/-- The transmissions that probes in flight can still need. -/
def spare (retries : Nat) : List Probe → Nat
  | [] => 0
  | p :: probes => retries - p.retries + spare retries probes

@[simp] theorem spare_nil (retries : Nat) : spare retries [] = 0 := rfl

@[simp] theorem spare_cons (retries : Nat) (p : Probe) (probes : List Probe) :
    spare retries (p :: probes) = retries - p.retries + spare retries probes := rfl

@[simp] theorem spare_append (retries : Nat) (a b : List Probe) :
    spare retries (a ++ b) = spare retries a + spare retries b := by
  induction a with
  | nil => simp
  | cons p a ih => simp [ih, Nat.add_assoc]

/-- What a sweep still may send, what it sent, and whom the numbers in flight belong to. -/
structure Ledger (loaded : Relay → Prop) (spent : UInt16 → Prop) (retries time : Nat) (sent : List (Dispatch × Nat))
    (queue flying : List Probe) (next : UInt16) : Prop where
  room : sent.length + queue.length * (retries + 1) + spare retries flying ≤ 65536
  counted : next = UInt16.ofNat sent.length
  below : ∀ e ∈ sent, e.1.sequence.toNat < sent.length
  once : (sent.map (·.1.sequence)).Nodup
  dated : ∀ e ∈ sent, e.2 ≤ time
  flights : ∀ p ∈ flying, (p.dispatch, p.sentAt) ∈ sent
  distinct : (flying.map Probe.sequence).Nodup
  ordered : flying.Pairwise (·.sentAt ≤ ·.sentAt)
  known : ∀ p ∈ queue ++ flying, loaded ⟨p.key, p.target⟩
  closed : ∀ k, spent k → k.toNat < sent.length ∧ ∀ p ∈ flying, p.sequence ≠ k

namespace Ledger

variable {loaded : Relay → Prop} {spent : UInt16 → Prop} {retries time : Nat} {sent : List (Dispatch × Nat)}
  {queue flying : List Probe} {next : UInt16}

theorem later {now : Nat} (ledger : Ledger loaded spent retries time sent queue flying next) (order : time ≤ now) :
    Ledger loaded spent retries now sent queue flying next :=
  { ledger with dated := fun e member => Nat.le_trans (ledger.dated e member) order }

/-- A sweep that was only loaded has sent nothing. -/
theorem fresh (known : ∀ p ∈ queue, loaded ⟨p.key, p.target⟩) (room : queue.length * (retries + 1) ≤ 65536) :
    Ledger loaded (fun _ => False) retries time [] queue [] 0 where
  room := by simpa using room
  counted := rfl
  below := nofun
  once := List.nodup_nil
  dated := nofun
  flights := nofun
  distinct := List.nodup_nil
  ordered := List.Pairwise.nil
  known := by simpa using known
  closed := nofun

theorem same_transmission (ledger : Ledger loaded spent retries time sent queue flying next) {a b : Dispatch × Nat}
    (left : a ∈ sent) (right : b ∈ sent) (same : a.1.sequence = b.1.sequence) : a = b :=
  List.inj_on_of_nodup_map ledger.once left right same

/-! ### Leaving the table -/

/-- Probes may leave the table at any place. -/
theorem leave (before : List Probe) {after : List Probe} {p : Probe}
    (ledger : Ledger loaded spent retries time sent queue (before ++ p :: after) next) :
    Ledger loaded (fun k => spent k ∨ k = p.sequence) retries time sent queue (before ++ after) next := by
  have rest : (before ++ after).Sublist (before ++ p :: after) :=
    List.Sublist.append_left (List.sublist_cons_self p after) before
  have here : p ∈ before ++ p :: after := by simp
  have others : ∀ q ∈ before ++ after, q.sequence ≠ p.sequence := by
    intro q member same
    have distinct := ledger.distinct
    simp only [List.map_append, List.map_cons, List.nodup_middle, List.nodup_cons] at distinct
    exact distinct.1 (List.map_append ▸ List.mem_map.mpr ⟨q, member, same⟩)
  refine ⟨?_, ledger.counted, ledger.below, ledger.once, ledger.dated, ?_, ?_, ?_, ?_, ?_⟩
  · have room := ledger.room
    simp only [spare_append, spare_cons] at room ⊢
    omega
  · exact fun q member => ledger.flights q (rest.subset member)
  · exact ledger.distinct.sublist (rest.map _)
  · exact ledger.ordered.sublist rest
  · intro q member
    rcases List.mem_append.mp member with queued | flies
    · exact ledger.known q (List.mem_append_left _ queued)
    · exact ledger.known q (List.mem_append_right _ (rest.subset flies))
  · rintro k (closed | rfl)
    · obtain ⟨used, gone⟩ := ledger.closed k closed
      exact ⟨used, fun q member => gone q (rest.subset member)⟩
    · exact ⟨ledger.below _ (ledger.flights p here), others⟩

theorem forget {more : UInt16 → Prop} (ledger : Ledger loaded more retries time sent queue flying next)
    (fewer : ∀ k, spent k → more k) : Ledger loaded spent retries time sent queue flying next :=
  { ledger with closed := fun k known => ledger.closed k (fewer k known) }

/-! ### Sending -/

theorem next_toNat (ledger : Ledger loaded spent retries time sent queue flying next)
    (space : sent.length < 65536) : next.toNat = sent.length := by
  rw [ledger.counted]
  exact UInt16.toNat_ofNat_of_lt' space

theorem next_unused (ledger : Ledger loaded spent retries time sent queue flying next)
    (space : sent.length < 65536) : ∀ e ∈ sent, e.1.sequence ≠ next := by
  intro e member same
  have before := ledger.below e member
  rw [same, ledger.next_toNat space] at before
  exact Nat.lt_irrefl _ before

/-- A transmission under the next number, which nothing before it carried. -/
theorem send {p : Probe} (ledger : Ledger loaded spent retries time sent queue flying next)
    (space : sent.length + 1 + queue.length * (retries + 1) + spare retries flying +
      (retries - p.retries) ≤ 65536)
    (numbered : p.sequence = next) (now : p.sentAt = time) (known : loaded ⟨p.key, p.target⟩) :
    Ledger loaded spent retries time ((p.dispatch, time) :: sent) queue (flying ++ [p]) (next + 1) := by
  have some : sent.length < 65536 := by omega
  have number : p.sequence.toNat = sent.length := by rw [numbered, ledger.next_toNat some]
  have unused : ∀ e ∈ sent, e.1.sequence ≠ p.sequence := by
    rw [numbered]
    exact ledger.next_unused some
  have fresh : ∀ q ∈ flying, q.sequence ≠ p.sequence := fun q flies => unused _ (ledger.flights q flies)
  have extended : ∀ {P : Probe → Prop}, (∀ q ∈ flying, P q) → P p → ∀ q ∈ flying ++ [p], P q := by
    intro P all one
    exact List.forall_mem_append.mpr ⟨all, List.forall_mem_singleton.mpr one⟩
  refine ⟨?_, ?_, ?_, ?_, ?_, ?_, ?_, ?_, ?_, ?_⟩
  · simp only [List.length_cons, spare_append, spare_cons, spare_nil]
    omega
  · rw [ledger.counted, List.length_cons, UInt16.ofNat_add]
    rfl
  · refine List.forall_mem_cons.mpr ⟨?_, ?_⟩
    · exact number ▸ Nat.lt_succ_self _
    · exact fun e old => Nat.lt_succ_of_lt (ledger.below e old)
  · refine List.nodup_cons.mpr ⟨?_, ledger.once⟩
    intro listed
    obtain ⟨e, old, same⟩ := List.mem_map.mp listed
    exact unused e old same
  · exact List.forall_mem_cons.mpr ⟨Nat.le_refl time, ledger.dated⟩
  · refine extended ?_ ?_
    · exact fun q flies => List.mem_cons_of_mem _ (ledger.flights q flies)
    · exact now ▸ List.mem_cons_self
  · rw [List.map_append]
    refine List.nodup_append.mpr ⟨ledger.distinct, by simp, ?_⟩
    intro a flies b sends same
    obtain ⟨q, member, rfl⟩ := List.mem_map.mp flies
    obtain rfl : b = p.sequence := by simpa using sends
    exact fresh q member same
  · refine List.pairwise_append.mpr ⟨ledger.ordered, List.pairwise_singleton _ _, ?_⟩
    intro q flies r sends
    obtain rfl := List.mem_singleton.mp sends
    exact now ▸ ledger.dated _ (ledger.flights q flies)
  · rw [← List.append_assoc]
    exact List.forall_mem_append.mpr ⟨ledger.known, List.forall_mem_singleton.mpr known⟩
  · intro k closed
    obtain ⟨used, gone⟩ := ledger.closed k closed
    refine ⟨Nat.lt_succ_of_lt used, extended gone ?_⟩
    intro same
    rw [← same, number] at used
    exact Nat.lt_irrefl _ used

theorem giveUp {p : Probe} (ledger : Ledger loaded spent retries time sent queue (p :: flying) next) :
    Ledger loaded spent retries time sent queue flying next :=
  (leave [] ledger).forget fun _ => Or.inl

theorem resend {p : Probe} (ledger : Ledger loaded spent retries time sent queue (p :: flying) next)
    (left : p.retries < retries) :
    Ledger loaded spent retries time ((⟨p.target, next⟩, time) :: sent) queue (flying ++ [p.resent next time])
      (next + 1) := by
  refine ledger.giveUp.send (p := p.resent next time) ?_ rfl rfl ?_
  · have room := ledger.room
    simp only [spare_cons] at room
    simp only [Probe.resent]
    omega
  · exact ledger.known p (by simp)

theorem board {p : Probe} (ledger : Ledger loaded spent retries time sent (p :: queue) flying next) :
    Ledger loaded spent retries time ((⟨p.target, next⟩, time) :: sent) queue (flying ++ [p.launched next time])
      (next + 1) := by
  have room := ledger.room
  rw [List.length_cons, Nat.succ_mul] at room
  have shorter : Ledger loaded spent retries time sent queue flying next :=
    { ledger with
      room := by omega
      known := fun q member => ledger.known q (List.mem_cons_of_mem _ member) }
  refine shorter.send (p := p.launched next time) ?_ rfl rfl ?_
  · simp only [Probe.launched]
    omega
  · exact ledger.known p (by simp)

end Ledger

/-! ### Whole calls -/

/-- The ledger of a sweep as it stands. -/
def Accounts (s : Sweep) (loaded : Relay → Prop) (spent : UInt16 → Prop) (time : Nat)
    (sent : List (Dispatch × Nat)) : Prop :=
  Ledger loaded spent s.pace.retries time sent s.queue s.flying s.nextSequence

variable {s : Sweep} {loaded : Relay → Prop} {spent : UInt16 → Prop} {now : Nat} {sent : List (Dispatch × Nat)}

theorem expired_accounts (accounts : s.Accounts loaded spent now sent) :
    (s.expired now).Accounts loaded spent now ((s.expire now).1.retried.reverse.map (·, now) ++ sent) := by
  refine expire_keeps s now (I := fun table resent _ next =>
    Ledger loaded spent s.pace.retries now (resent.map (·, now) ++ sent) s.queue table next) ?_ ?_ accounts
  · intro p rest resent dropped n _ left ledger
    exact ledger.resend left
  · intro p rest resent dropped n _ _ ledger
    exact ledger.giveUp

theorem filled_accounts (accounts : s.Accounts loaded spent now sent) :
    (s.filled now).Accounts loaded spent now ((s.fill now).1.reverse.map (·, now) ++ sent) := by
  have filled := filled_keeps s now (I := fun queue flying launched next =>
    Ledger loaded spent s.pace.retries now (launched.map (·, now) ++ sent) queue flying next)
    (fun ledger => ledger.board) [] accounts
  rwa [List.append_nil] at filled

theorem sends_reverse (s : Sweep) (now : Nat) (sent : List (Dispatch × Nat)) :
    (s.sends now).reverse.map (·, now) ++ sent =
      ((s.expired now).fill now).1.reverse.map (·, now) ++ ((s.expire now).1.retried.reverse.map (·, now) ++ sent) := by
  rw [sends, List.reverse_append, List.map_append, List.append_assoc]

theorem advanced_accounts (accounts : s.Accounts loaded spent now sent) :
    (s.advanced now).Accounts loaded spent now ((s.sends now).reverse.map (·, now) ++ sent) := by
  rw [sends_reverse]
  exact filled_accounts (expired_accounts accounts)

/-- The table is in the order of transmission, so a look for timeouts leaves no probe that is due. -/
theorem expired_punctual (accounts : s.Accounts loaded spent now sent) :
    ∀ p ∈ (s.expired now).flying, now < p.deadline s.pace.timeout :=
  undue_of_front (expired_accounts accounts).ordered fun _ front => expired_settled front

/-- A transmission whose time is up is made again under another number or given up. -/
theorem advanced_closes (accounts : s.Accounts loaded spent now sent) {e : Dispatch × Nat} (made : e ∈ sent)
    (late : Millis.add e.2 s.pace.timeout ≤ now) :
    (s.advanced now).Accounts loaded (fun k => spent k ∨ k = e.1.sequence) now
      ((s.sends now).reverse.map (·, now) ++ sent) := by
  have expired := expired_accounts accounts
  have listed : e ∈ (s.expire now).1.retried.reverse.map (·, now) ++ sent := List.mem_append_right _ made
  -- what is left in the table is not due, and the number stands for this transmission alone
  have gone : ∀ p ∈ (s.expired now).flying, p.sequence ≠ e.1.sequence := by
    intro p member same
    have transmission : (p.dispatch, p.sentAt) = e :=
      expired.same_transmission (expired.flights p member) listed same
    have waits := expired_punctual accounts p member
    subst transmission
    exact Nat.lt_irrefl _ (Nat.lt_of_lt_of_le waits late)
  have closed : (s.expired now).Accounts loaded (fun k => spent k ∨ k = e.1.sequence) now
      ((s.expire now).1.retried.reverse.map (·, now) ++ sent) := by
    refine { expired with closed := ?_ }
    rintro k (old | rfl)
    · exact expired.closed k old
    · exact ⟨expired.below e listed, gone⟩
  rw [sends_reverse]
  exact filled_accounts closed

theorem answered_accounts (accounts : s.Accounts loaded spent now sent) {p : Probe} (flies : p ∈ s.flying) :
    (s.answered p.sequence).Accounts loaded (fun k => spent k ∨ k = p.sequence) now sent := by
  obtain ⟨q, before, after, _, same, table, rest⟩ :=
    List.exists_of_eraseP flies (p := (·.sequence == p.sequence)) (beq_self_eq_true _)
  have left : (s.answered p.sequence).flying = before ++ after := rest
  unfold Accounts at accounts ⊢
  rw [table] at accounts
  rw [left, ← beq_iff_eq.mp same]
  exact accounts.leave before

theorem load_accounts {records : List Probe} (known : ∀ p ∈ records, loaded ⟨p.key, p.target⟩)
    (room : records.length * (s.pace.retries + 1) ≤ 65536) :
    (s.load records).Accounts loaded (fun _ => False) now [] := by
  refine Ledger.fresh ?_ ?_
  · intro p queued
    exact known p (List.mem_mergeSort.mp queued)
  · rwa [load, List.length_mergeSort]

end RelayQuality.Sweep
