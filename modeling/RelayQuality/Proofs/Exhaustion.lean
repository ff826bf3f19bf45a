import RelayQuality.Proofs.Attribution
import RelayQuality.Proofs.Coherence
import RelayQuality.Proofs.Lasting
import RelayQuality.Proofs.Restraint
import RelayQuality.Proofs.Rounds

/-!
# Every sweep ends

A sweep has a stock of timeouts, one for each transmission that its probes can still have. A wait for the probe alarm
makes the oldest transmission due and so uses up one of them at least; an answer adds none. When the stock is used up
the sweep has ended, and no wait has changed a sample.
-/

namespace RelayQuality

/-! ### The stock of timeouts -/

namespace Sweep

/-- No probe was sent again more often than it may be. -/
def Within (s : Sweep) : Prop := ∀ p ∈ s.flying, p.retries ≤ s.pace.retries

/-- The timeouts that a sweep can still have. -/
def outstanding (s : Sweep) : Nat := s.queue.length * (s.pace.retries + 1) + credits s.pace.retries s.flying

theorem outstanding_eq_sum (s : Sweep) :
    s.outstanding = (s.queue.map fun _ => s.pace.retries + 1).sum +
      (s.flying.map fun p => s.pace.retries + 1 - p.retries).sum := by
  simp [outstanding, credits_eq_sum]

theorem credits_le (retries : Nat) (flying : List Probe) : credits retries flying ≤ flying.length * (retries + 1) := by
  induction flying with
  | nil => exact Nat.zero_le _
  | cons p rest ih =>
    rw [credits_cons, List.length_cons, Nat.succ_mul, credit]
    omega

theorem outstanding_le (s : Sweep) :
    s.outstanding ≤ (s.flying.length + s.queue.length) * (s.pace.retries + 1) := by
  have flights := credits_le s.pace.retries s.flying
  rw [outstanding, Nat.add_mul]
  omega

theorem credits_sublist {retries : Nat} {kept flying : List Probe} (fewer : kept.Sublist flying) :
    credits retries kept ≤ credits retries flying := by
  induction fewer with
  | slnil => exact Nat.le_refl 0
  | cons p _ ih => exact Nat.le_trans ih (Nat.le_add_left _ _)
  | cons_cons p _ ih => exact Nat.add_le_add_left ih _

variable {s : Sweep} {now : Nat}

theorem Within.outstanding_pos (within : s.Within) (some : s.flying ≠ []) : 0 < s.outstanding := by
  obtain ⟨p, rest, table⟩ := List.exists_cons_of_ne_nil some
  have left := within p (table ▸ List.mem_cons_self)
  rw [outstanding, table, credits_cons, credit]
  omega

/-- Each timeout is paid for, whether the probe is sent again or given up. -/
theorem expired_stock (within : s.Within) (now : Nat) :
    (s.expired now).Within ∧
      credits s.pace.retries (s.expired now).flying + (s.expire now).1.retried.length +
        (s.expire now).1.dropped.length = credits s.pace.retries s.flying := by
  obtain ⟨rounds, ends, _⟩ := expire_rounds s now
  obtain ⟨left, counted, paid, _⟩ := rounds?_paid within ends
  refine ⟨left, ?_⟩
  simp only [closed, List.length_reverse] at counted paid
  rw [Nat.add_assoc, counted]
  exact paid

/-- A front that is due does not stay where it is. -/
theorem expire_finds {p : Probe} (front : s.flying.head? = some p) (due : p.deadline s.pace.timeout ≤ now) :
    0 < (s.expire now).1.retried.length + (s.expire now).1.dropped.length := by
  have still := expire_keeps s now (I := fun table resent dropped _ => resent = [] → dropped = [] → table = s.flying)
    (fun _ _ _ => nofun) (fun _ _ _ _ => nofun) fun _ _ => rfl
  by_contra nothing
  obtain ⟨retried, dropped⟩ := Nat.add_eq_zero_iff.mp (Nat.eq_zero_of_not_pos nothing)
  rw [List.length_eq_zero_iff.mp retried, List.length_eq_zero_iff.mp dropped] at still
  have kept : (s.expired now).flying.head? = some p := by
    rw [still rfl rfl]
    exact front
  exact Nat.not_lt_of_le due (expired_settled kept)

theorem filled_stock (within : s.Within) (now : Nat) :
    (s.filled now).Within ∧ (s.filled now).outstanding = s.outstanding := by
  refine filled_keeps s now
    (I := fun queue table _ _ => (∀ p ∈ table, p.retries ≤ s.pace.retries) ∧
      queue.length * (s.pace.retries + 1) + credits s.pace.retries table = s.outstanding) ?_ [] ⟨within, rfl⟩
  rintro p queue table sent n ⟨within, stock⟩
  refine ⟨List.forall_mem_append.mpr ⟨within, List.forall_mem_singleton.mpr (Nat.zero_le _)⟩, ?_⟩
  simp only [List.length_cons, Nat.succ_mul, credits_append, credits_cons, credits_nil, credit, Probe.launched]
    at stock ⊢
  omega

theorem advanced_outstanding (within : s.Within) (now : Nat) :
    (s.advanced now).outstanding + (s.expire now).1.retried.length + (s.expire now).1.dropped.length =
      s.outstanding := by
  obtain ⟨expired, paid⟩ := expired_stock within now
  have left : (s.expired now).outstanding =
      s.queue.length * (s.pace.retries + 1) + credits s.pace.retries (s.expired now).flying := rfl
  rw [advanced, (filled_stock expired now).2, left, outstanding]
  omega

theorem answered_outstanding (s : Sweep) (k : UInt16) : (s.answered k).outstanding ≤ s.outstanding :=
  Nat.add_le_add_left (credits_sublist List.eraseP_sublist) _

theorem within_lasting : Lasting Within where
  clear _ := nofun
  load _ _ := nofun
  advanced now within := (filled_stock (expired_stock within now).1 now).1
  answered _ within := fun p member => within p (List.mem_of_mem_eraseP member)

end Sweep

namespace Monitor

open Sweep (Within within_lasting)

/-! ### Waits and answers -/

/-- What can come next while a sweep runs. -/
inductive Turn where
  /-- The clock goes on to the probe alarm, at some second of the epoch, and a tick follows. -/
  | wait (epoch : Int)
  /-- An answer comes. -/
  | answer (now : Reading) (sequence : UInt16)
  /-- News of a transport comes, of this sweep or of another. -/
  | news (now : Reading) (event : TransportEvent)

namespace Turn

/-- Nothing came before the probe alarm. -/
def isWait : Turn → Bool
  | wait _ => true
  | answer _ _ => false
  | news _ _ => false

/-- The turn answers a probe in flight of the relay with a key. -/
def Answers (m : Monitor) (key : String) : Turn → Prop
  | wait _ => False
  | answer _ k => m.hasTransport = true ∧ ∃ p ∈ m.sweep.flying, p.sequence = k ∧ p.key = key
  | news _ event => ∃ k, event = ⟨m.generation, .reply k⟩ ∧ m.hasTransport = true ∧
      ∃ p ∈ m.sweep.flying, p.sequence = k ∧ p.key = key

end Turn

/-- A turn of a monitor whose counter of milliseconds shows a time. -/
def turn : Monitor × Nat → Turn → Monitor × Nat
  | (m, clock), .wait epoch =>
    let now := max clock (m.alarms.probe.getD clock)
    (m.tick ⟨now, epoch⟩, now)
  | (m, _), .answer now k => (m.hearReply now k, now.millis)
  | (m, _), .news now event => (m.hear now event, now.millis)

def turns (m : Monitor) (clock : Nat) (turns : List Turn) : Monitor × Nat := turns.foldl turn (m, clock)

/-- A sweep that runs has no more than these timeouts left, and after its end the next one is set. -/
structure Spending (pace : Pace) (left : Nat) (m : Monitor) : Prop extends Coherent pace m where
  within : m.sweep.Within
  running : m.hasTransport = true → m.enabled = true ∧ m.sweep.outstanding ≤ left
  ended : m.hasTransport = false → m.alarms.refresh.isSome

variable {pace : Pace} {left : Nat} {m : Monitor}

theorem tick_spending (now : Reading) (poised : Poised pace m) (within : m.sweep.Within)
    (transport : m.hasTransport = true) (enabled : m.enabled = true)
    (budget : (m.sweep.advanced now.millis).outstanding ≤ left) : Spending pace left (m.tick now) := by
  have coherent := tick_coherent now poised
  have within := tick_lasting within_lasting now within
  rcases tick_cases m now with ⟨idle, _⟩ | ⟨_, _, same⟩ | ⟨_, p, rest, _, same⟩
  · exact absurd (idle.symm.trans transport) Bool.false_ne_true
  · have on : (m.advanced now.millis).enabled = true := by
      rw [advanced_eq]
      exact enabled
    have stopped : (m.tick now).hasTransport = false ∧ (m.tick now).alarms.refresh.isSome := by
      rw [same, stop_eq, on]
      cases set : (m.advanced now.millis).alarms.refresh <;> simp [halt, announce, emit]
    exact ⟨coherent, within, fun opened => absurd (stopped.1.symm.trans opened) Bool.false_ne_true, fun _ => stopped.2⟩
  · have goes : (m.tick now).hasTransport = true ∧ (m.tick now).enabled = true ∧
        (m.tick now).sweep.outstanding ≤ left := by
      rw [same, advanced_eq]
      exact ⟨transport, enabled, budget⟩
    exact ⟨coherent, within, fun _ => goes.2, fun idle => absurd (idle.symm.trans goes.1) Bool.false_ne_true⟩

theorem Spending.idle (spending : Spending pace left m) (idle : m.hasTransport = false) (fewer : Nat) :
    Spending pace fewer m :=
  ⟨spending.toCoherent, spending.within, fun transport => (nomatch idle.symm.trans transport), spending.ended⟩

/-- A wait makes the oldest transmission due, so that one timeout less is left. -/
theorem wait_spending (clock : Nat) (epoch : Int) (spending : Spending pace left m) :
    Spending pace (left - 1) (turn (m, clock) (.wait epoch)).1 := by
  cases transport : m.hasTransport with
  | false =>
    rw [turn, tick, transport]
    exact spending.idle transport _
  | true =>
    obtain ⟨enabled, stock⟩ := spending.running transport
    obtain ⟨p, rest, table⟩ := List.exists_cons_of_ne_nil (spending.busy transport)
    have front : m.sweep.flying.head? = some p := by rw [table, List.head?_cons]
    have alarm : m.alarms.probe = some (p.deadline m.sweep.pace.timeout) := by
      rw [spending.waiting, front, spending.paced]
      rfl
    refine tick_spending _ spending.toPoised spending.within transport enabled ?_
    -- the alarm stands on the deadline of the front, which the wait therefore reaches
    have due : p.deadline m.sweep.pace.timeout ≤ max clock (m.alarms.probe.getD clock) := by
      rw [alarm]
      exact Nat.le_max_right _ _
    have paid := Sweep.advanced_outstanding spending.within (max clock (m.alarms.probe.getD clock))
    have found := Sweep.expire_finds front due
    dsimp only
    omega

theorem hearReply_spending (now : Reading) (k : UInt16) (spending : Spending pace left m) :
    Spending pace left (m.hearReply now k) := by
  rcases hearReply_cases m now k with ⟨_, same⟩ | ⟨transport, p, _, _, same⟩ <;> rw [same]
  · exact spending
  · obtain ⟨enabled, stock⟩ := spending.running transport
    have control := control_answered m now p
    have sweep : (m.answered now p).sweep = m.sweep.answered p.sequence := congrArg Control.sweep control
    have within : (m.answered now p).sweep.Within := by
      rw [sweep]
      exact within_lasting.answered _ spending.within
    refine tick_spending now (answered_poised now p transport spending.toPoised) within
      ((congrArg Control.hasTransport control).trans transport) ((congrArg Control.enabled control).trans enabled) ?_
    have paid := Sweep.advanced_outstanding within now.millis
    have fewer := Sweep.answered_outstanding m.sweep p.sequence
    rw [sweep] at paid ⊢
    omega

theorem hear_spending (now : Reading) (event : TransportEvent) (spending : Spending pace left m) :
    Spending pace left (m.hear now event) :=
  hear_keeps spending (fun k => hearReply_spending now k spending) event

theorem turns_spending (clock : Nat) (after : List Turn) (spending : Spending pace left m) :
    Spending pace (left - after.countP Turn.isWait) (m.turns clock after).1 := by
  induction after generalizing m clock left with
  | nil => exact spending
  | cons first rest ih =>
    cases first with
    | wait epoch =>
      have spent := ih (max clock (m.alarms.probe.getD clock)) (wait_spending clock epoch spending)
      rw [List.countP_cons_of_pos rfl, Nat.add_comm, ← Nat.sub_sub]
      exact spent
    | answer now k => exact ih now.millis (hearReply_spending now k spending)
    | news now event => exact ih now.millis (hear_spending now event spending)

/-! ### Samples -/

theorem hearReply_sampled (m : Monitor) (now : Reading) (k : UInt16) (key : String) :
    (m.hearReply now k).samples.get? key = m.samples.get? key ∨ (Turn.answer now k).Answers m key := by
  rcases hearReply_cases m now k with ⟨_, same⟩ | ⟨transport, p, flies, number, same⟩ <;> rw [same]
  · exact Or.inl rfl
  · rw [answered_samples]
    split
    next named => exact Or.inr ⟨transport, p, flies, number, named.symm⟩
    next => exact Or.inl rfl

/-- A wait leaves all samples alone, and an answer all but that of the relay it belongs to. -/
theorem turn_sampled (m : Monitor) (clock : Nat) (next : Turn) (key : String) :
    (turn (m, clock) next).1.samples.get? key = m.samples.get? key ∨ next.Answers m key := by
  cases next with
  | wait epoch => exact Or.inl (congrArg (·.get? key) (tick_samples _ _))
  | answer now k => exact hearReply_sampled m now k key
  | news now event =>
    obtain ⟨g, k | text⟩ := event
    · rw [turn, hear_reply]
      split
      next here => exact (hearReply_sampled m now k key).imp_right fun answers => ⟨k, by rw [here], answers⟩
      next => exact Or.inl rfl
    · rw [turn, hear_failure]
      exact Or.inl rfl

theorem turns_sampled (m : Monitor) (clock : Nat) (after : List Turn) (key : String) :
    (m.turns clock after).1.samples.get? key = m.samples.get? key ∨
      ∃ before next rest, after = before ++ next :: rest ∧ next.Answers (m.turns clock before).1 key := by
  induction after generalizing m clock with
  | nil => exact Or.inl rfl
  | cons first rest ih =>
    rcases turn_sampled m clock first key with kept | answers
    · rcases ih (turn (m, clock) first).1 (turn (m, clock) first).2 with same | ⟨before, next, later, split, answers⟩
      · exact Or.inl (same.trans kept)
      · exact Or.inr ⟨first :: before, next, later, congrArg (first :: ·) split, answers⟩
    · exact Or.inr ⟨[], first, rest, rfl, answers⟩

theorem turns_concat (m : Monitor) (clock : Nat) (before : List Turn) (next : Turn) :
    m.turns clock (before ++ [next]) = turn (m.turns clock before) next := List.foldl_append

theorem wait_samples (m : Monitor) (clock : Nat) (before : List Turn) (epoch : Int) :
    (m.turns clock (before ++ [.wait epoch])).1.samples = (m.turns clock before).1.samples := by
  rw [turns_concat]
  exact tick_samples _ _

theorem waits_samples (m : Monitor) (clock : Nat) {after : List Turn} (silent : ∀ next ∈ after, next.isWait = true) :
    (m.turns clock after).1.samples = m.samples := by
  induction after generalizing m clock with
  | nil => rfl
  | cons first rest ih =>
    obtain ⟨waits, others⟩ := List.forall_mem_cons.mp silent
    cases first with
    | wait epoch => exact (ih _ _ others).trans (tick_samples _ _)
    | answer now k => nomatch waits
    | news now event => nomatch waits

/-! ### The end -/

/-- A sweep is over, and the alarm for the next is set, after as many waits for the probe alarm as its probes have
transmissions left. -/
theorem every_sweep_ends (config : Config) (catalog : Catalog) {operations : List (Surroundings × Operation)}
    (sweeping : ((ofConfig config catalog).run operations).hasTransport = true) (clock : Nat) (after : List Turn) :
    let m := (ofConfig config catalog).run operations
    let bound := (m.sweep.queue.map fun _ => config.maxRetries + 1).sum +
      (m.sweep.flying.map fun p => config.maxRetries + 1 - p.retries).sum
    let last := (m.turns clock after).1
    bound ≤ m.sweep.total * (config.maxRetries + 1) ∧
    (bound ≤ after.countP Turn.isWait → last.hasTransport = false ∧ last.alarms.refresh.isSome) ∧
    ((∀ next ∈ after, next.isWait = true) → last.samples = m.samples) ∧
    (∀ before epoch, before ++ [.wait epoch] <+: after →
      (m.turns clock (before ++ [.wait epoch])).1.samples = (m.turns clock before).1.samples) ∧
    ∀ key, last.samples.get? key = m.samples.get? key ∨
      ∃ before next rest, after = before ++ next :: rest ∧ next.Answers (m.turns clock before).1 key := by
  intro m bound last
  have coherent := run_coherent (ofConfig_coherent config catalog) operations
  have restrained : Restrained m :=
    run_keeps (I := Restrained) (fun _ => step_restrained _ _) (ofConfig_restrained config catalog) fun _ _ => trivial
  have within : m.sweep.Within := run_lasting within_lasting (m := ofConfig config catalog) nofun operations
  have retries : m.sweep.pace.retries = config.maxRetries := congrArg Pace.retries coherent.paced
  have stock : m.sweep.outstanding = bound := by rw [Sweep.outstanding_eq_sum, retries]
  refine ⟨?_, ?_, waits_samples m clock, fun before epoch _ => wait_samples m clock before epoch,
    turns_sampled m clock after⟩
  · rw [← stock, ← retries]
    exact Nat.le_trans m.sweep.outstanding_le (Nat.mul_le_mul_right _ coherent.bounded)
  · intro enough
    have enabled := (restrained.permitted sweeping).1
    have running : Spending (.ofLimits config.probeTimeout config.maxParallel config.maxRetries) bound m :=
      ⟨coherent, within, fun _ => ⟨enabled, Nat.le_of_eq stock⟩, fun idle => nomatch sweeping.symm.trans idle⟩
    have spent := turns_spending clock after running
    rw [Nat.sub_eq_zero_of_le enough] at spent
    have idle : last.hasTransport = false := by
      -- a sweep that still ran would have a timeout left
      by_contra transport
      have transport := Bool.eq_true_of_not_eq_false transport
      have some := spent.within.outstanding_pos (spent.busy transport)
      exact absurd (spent.running transport).2 (Nat.not_le_of_gt some)
    exact ⟨idle, spent.ended idle⟩

/-- Three timeouts, and a late answer to the second transmission between them. -/
def unanswered : List Turn := [.wait 5, .wait 10, .answer ⟨10001, 10⟩ 1, .wait 15]

theorem unanswered_ends :
    let m := (ofConfig {} loneRelay).run loneStart
    let last := (m.turns 0 unanswered).1
    m.hasTransport = true ∧ last.hasTransport = false ∧ last.alarms.refresh.isSome := by
  intro m last
  obtain ⟨sweeping, _, queue, flying, _⟩ := loneStart_sweeps
  have bound : (m.sweep.queue.map fun _ => 2 + 1).sum + (m.sweep.flying.map fun p => 2 + 1 - p.retries).sum = 3 := by
    rw [queue, flying]
    rfl
  obtain ⟨_, ends, _⟩ := every_sweep_ends {} loneRelay sweeping 0 unanswered
  exact ⟨sweeping, ends (Nat.le_of_eq bound)⟩

end Monitor

end RelayQuality
