import Mathlib.Order.Bounds.Basic
import RelayQuality.Proofs.Collision

/-!
# Timeouts come in the order of transmission

A transmission goes to the back of the table under the present time. So while the clock does not go back the table is in
the order of transmission (`Reaches.dated`), and a look for timeouts, which stops at the first probe that is not due,
misses none. `expire_eq` says all that it does where what it sends again cannot be due at once.
-/

namespace RelayQuality.Sweep

/-! ### One look for timeouts -/

/-- Probes as transmitted once more, under numbers in a row. -/
def resend (sequence : UInt16) (now : Nat) (probes : List Probe) : List Probe :=
  probes.mapIdx fun i p => p.resent (sequence + UInt16.ofNat i) now

@[simp] theorem resend_nil (n : UInt16) (now : Nat) : resend n now [] = [] := rfl

theorem resend_cons (n : UInt16) (now : Nat) (p : Probe) (probes : List Probe) :
    resend n now (p :: probes) = p.resent n now :: resend (n + 1) now probes := by
  simp only [resend, List.mapIdx_cons, number_succ]
  simp

@[simp] theorem length_resend (n : UInt16) (now : Nat) (probes : List Probe) :
    (resend n now probes).length = probes.length := List.length_mapIdx

/-- The probes whose time is up. -/
def due (timeout now : Nat) (table : List Probe) : List Probe := table.filter (·.deadline timeout ≤ now)

def undue (timeout now : Nat) (table : List Probe) : List Probe := table.filter (now < ·.deadline timeout)

variable {pace : Pace} {now : Nat}

theorem due_cons (pace : Pace) (now : Nat) (p : Probe) (rest : List Probe) :
    due pace.timeout now (p :: rest) =
      if now < p.deadline pace.timeout then due pace.timeout now rest else p :: due pace.timeout now rest := by
  by_cases early : now < p.deadline pace.timeout
  · simp [due, early]
  · have late : p.deadline pace.timeout ≤ now := Nat.le_of_not_lt early
    simp [due, late, early]

theorem undue_cons (pace : Pace) (now : Nat) (p : Probe) (rest : List Probe) :
    undue pace.timeout now (p :: rest) =
      if now < p.deadline pace.timeout then p :: undue pace.timeout now rest else undue pace.timeout now rest := by
  by_cases early : now < p.deadline pace.timeout <;> simp [undue, early]

theorem due_eq_nil {table : List Probe} (waits : ∀ p ∈ table, now < p.deadline pace.timeout) :
    due pace.timeout now table = [] := by
  simpa [due] using waits

theorem undue_eq_self {table : List Probe} (waits : ∀ p ∈ table, now < p.deadline pace.timeout) :
    undue pace.timeout now table = table := by
  simpa [undue] using waits

/-- A walk stops in front of a probe that is not due. -/
theorem walk_early {p : Probe} {rest behind : List Probe} {sent : List Dispatch} {dropped : List Probe} {n : UInt16}
    (early : now < p.deadline pace.timeout) :
    walk pace now ⟨p :: rest, behind, sent, dropped, n⟩ = ⟨p :: rest, behind, sent, dropped, n⟩ := by
  rw [walk, if_pos early]

/-- What was sent in a walk stays where it is when the walk comes to it. -/
theorem walk_round {behind : List Probe} {sent : List Dispatch} {dropped : List Probe} {n : UInt16}
    (fresh : ∀ p ∈ behind, now < p.deadline pace.timeout) :
    (walk pace now ⟨[], behind, sent, dropped, n⟩).table = behind.reverse ∧
      (walk pace now ⟨[], behind, sent, dropped, n⟩).resent = sent ∧
      (walk pace now ⟨[], behind, sent, dropped, n⟩).dropped = dropped ∧
      (walk pace now ⟨[], behind, sent, dropped, n⟩).sequence = n := by
  cases behind with
  | nil => simp [walk, Walk.table]
  | cons last earlier =>
    rw [walk]
    cases table : (last :: earlier).reverse with
    | nil => simp at table
    | cons p rest =>
      have member : p ∈ last :: earlier := by
        rw [← List.mem_reverse, table]
        exact List.mem_cons_self
      rw [walk_early (fresh p member)]
      exact ⟨List.append_nil _, rfl, rfl, rfl⟩

theorem walk_eq {front behind : List Probe} (sent : List Dispatch) (dropped : List Probe) (n : UInt16)
    (ordered : front.Pairwise (·.sentAt ≤ ·.sentAt)) (fresh : ∀ p ∈ behind, now < p.deadline pace.timeout)
    (lasts : now < Millis.add now pace.timeout) :
    let again := resend n now ((due pace.timeout now front).filter (·.retries < pace.retries))
    let w := walk pace now ⟨front, behind, sent, dropped, n⟩
    w.table = undue pace.timeout now front ++ behind.reverse ++ again ∧
      w.resent = (again.map Probe.dispatch).reverse ++ sent ∧
      w.dropped = ((due pace.timeout now front).filter (pace.retries ≤ ·.retries)).reverse ++ dropped ∧
      w.sequence = n + UInt16.ofNat again.length := by
  -- the front gets shorter, while what is sent again gathers behind it and is not due
  induction front generalizing behind sent dropped n with
  | nil => simpa [due, undue] using walk_round fresh
  | cons p rest ih =>
    by_cases early : now < p.deadline pace.timeout
    · have waits := undue_of_front ordered fun q first => Option.some.inj first ▸ early
      rw [due_eq_nil waits, undue_eq_self waits, walk_early early]
      simp [Walk.table]
    · have later := (List.pairwise_cons.mp ordered).2
      rw [walk, if_neg early, due_cons, undue_cons, if_neg early, if_neg early]
      by_cases left : p.retries < pace.retries
      · have fresh' : ∀ q ∈ p.resent n now :: behind, now < q.deadline pace.timeout :=
          List.forall_mem_cons.mpr ⟨lasts, fresh⟩
        obtain ⟨table, resent, gone, sequence⟩ := ih (⟨p.target, n⟩ :: sent) dropped (n + 1) later fresh'
        have spent : ¬ pace.retries ≤ p.retries := Nat.not_le_of_gt left
        rw [if_pos left, List.filter_cons_of_pos (by simpa using left), List.filter_cons_of_neg (by simpa using spent),
          resend_cons]
        refine ⟨?_, ?_, gone, ?_⟩
        · simpa using table
        · simpa [Probe.dispatch, Probe.resent] using resent
        · rw [sequence, List.length_cons, number_succ]
      · obtain ⟨table, resent, gone, sequence⟩ := ih sent (p :: dropped) n later fresh
        have spent : pace.retries ≤ p.retries := Nat.le_of_not_lt left
        rw [if_neg left, List.filter_cons_of_neg (by simpa using left), List.filter_cons_of_pos (by simpa using spent)]
        exact ⟨table, resent, by simpa using gone, sequence⟩

/-- Each probe that is due is treated once: sent again under the next number, or given up. -/
theorem expire_eq {s : Sweep} (ordered : s.flying.Pairwise (·.sentAt ≤ ·.sentAt))
    (lasts : now < Millis.add now s.pace.timeout) :
    let again := resend s.nextSequence now ((due s.pace.timeout now s.flying).filter (·.retries < s.pace.retries))
    s.expire now =
      (⟨again.map Probe.dispatch, (due s.pace.timeout now s.flying).filter (s.pace.retries ≤ ·.retries)⟩,
        { s with
          flying := undue s.pace.timeout now s.flying ++ again
          nextSequence := s.nextSequence + UInt16.ofNat again.length }) := by
  intro again
  have fresh : ∀ p ∈ ([] : List Probe), now < p.deadline s.pace.timeout := nofun
  obtain ⟨table, resent, gone, sequence⟩ := walk_eq [] [] s.nextSequence ordered fresh lasts
  rw [expire, walked, table, resent, gone, sequence]
  simp [again]

/-! ### A clock that does not go back -/

/-- The sweeps that come about at a pace on a clock that does not go back, each with the time of the latest call and
with all transmissions and their times, latest first. -/
inductive Reaches (pace : Pace) : Nat → List (Dispatch × Nat) → Sweep → Prop where
  | fresh : Reaches pace 0 [] { pace }
  | load {time sent s} (records : List Probe) : Reaches pace time sent s → Reaches pace time sent (s.load records)
  | fill {time sent s now} : time ≤ now → Reaches pace time sent s →
    Reaches pace now ((s.fill now).1.reverse.map (·, now) ++ sent) (s.fill now).2
  | expire {time sent s now} : time ≤ now → Reaches pace time sent s →
    Reaches pace now ((s.expire now).1.retried.reverse.map (·, now) ++ sent) (s.expire now).2
  | answer {time sent s now k reply rest} : time ≤ now → s.takeReply k now = some (reply, rest) →
    Reaches pace time sent s → Reaches pace now sent rest
  | miss {time sent s now k} : time ≤ now → s.takeReply k now = none → Reaches pace time sent s →
    Reaches pace now sent s

/-- The table is in the order of transmission, and each entry was transmitted as and when it says. -/
structure Dated (time : Nat) (sent : List (Dispatch × Nat)) (flying : List Probe) : Prop where
  ordered : flying.Pairwise (·.sentAt ≤ ·.sentAt)
  past : ∀ p ∈ flying, p.sentAt ≤ time
  flights : ∀ p ∈ flying, (p.dispatch, p.sentAt) ∈ sent

namespace Dated

variable {time : Nat} {sent : List (Dispatch × Nat)} {flying kept : List Probe} {p : Probe}

theorem later (order : time ≤ now) (dated : Dated time sent flying) : Dated now sent flying :=
  { dated with past := fun p member => Nat.le_trans (dated.past p member) order }

theorem leave (fewer : kept.Sublist flying) (dated : Dated time sent flying) : Dated time sent kept where
  ordered := dated.ordered.sublist fewer
  past := fun p member => dated.past p (fewer.subset member)
  flights := fun p member => dated.flights p (fewer.subset member)

theorem transmit (present : p.sentAt = time) (dated : Dated time sent flying) :
    Dated time ((p.dispatch, time) :: sent) (flying ++ [p]) where
  ordered := by
    refine List.pairwise_append.mpr ⟨dated.ordered, List.pairwise_singleton _ _, ?_⟩
    intro q flies r last
    obtain rfl := List.mem_singleton.mp last
    exact present ▸ dated.past q flies
  past := List.forall_mem_append.mpr ⟨dated.past, List.forall_mem_singleton.mpr (Nat.le_of_eq present)⟩
  flights := by
    refine List.forall_mem_append.mpr ⟨?_, List.forall_mem_singleton.mpr (present ▸ List.mem_cons_self)⟩
    exact fun q flies => List.mem_cons_of_mem _ (dated.flights q flies)

end Dated

variable {s : Sweep} {time : Nat} {sent : List (Dispatch × Nat)}

theorem expired_dated (dated : Dated now sent s.flying) :
    Dated now ((s.expire now).1.retried.reverse.map (·, now) ++ sent) (s.expire now).2.flying := by
  refine expire_keeps s now (I := fun table resent _ _ => Dated now (resent.map (·, now) ++ sent) table) ?_ ?_ dated
  · intro p rest resent dropped n _ _ dated
    exact (dated.leave (List.sublist_cons_self _ _)).transmit (p := p.resent n now) rfl
  · intro p rest resent dropped n _ _ dated
    exact dated.leave (List.sublist_cons_self _ _)

theorem filled_dated (dated : Dated now sent s.flying) :
    Dated now ((s.fill now).1.reverse.map (·, now) ++ sent) (s.fill now).2.flying := by
  have filled := filled_keeps s now (I := fun _ table launched _ => Dated now (launched.map (·, now) ++ sent) table)
    (fun {p _ _ _ n} dated => dated.transmit (p := p.launched n now) rfl) [] dated
  rwa [List.append_nil] at filled

theorem Reaches.dated (reaches : Reaches pace time sent s) : Dated time sent s.flying := by
  induction reaches with
  | fresh => exact ⟨List.Pairwise.nil, nofun, nofun⟩
  | load records _ _ => exact ⟨List.Pairwise.nil, nofun, nofun⟩
  | fill order _ ih => exact filled_dated (ih.later order)
  | expire order _ ih => exact expired_dated (ih.later order)
  | answer order taken _ ih =>
    obtain ⟨before, p, after, table, _, _, _, rfl⟩ := takeReply_splits taken
    refine (ih.later order).leave ?_
    rw [table]
    exact List.Sublist.append_left (List.sublist_cons_self _ _) before
  | miss order _ _ ih => exact ih.later order

theorem Reaches.paced (reaches : Reaches pace time sent s) : s.pace = pace := by
  induction reaches with
  | fresh => rfl
  | load _ _ ih => exact ih
  | fill _ _ ih => exact ih
  | expire _ _ ih => exact ih
  | answer _ taken _ ih =>
    obtain ⟨_, _, _, _, _, _, _, rfl⟩ := takeReply_splits taken
    exact ih
  | miss _ _ _ ih => exact ih

/-- The oldest transmission is the one that times out first. -/
theorem nextTimeout_isLeast {flying : List Probe} {timeout : Nat} (ordered : flying.Pairwise (·.sentAt ≤ ·.sentAt))
    {p : Probe} (front : flying.head? = some p) :
    IsLeast {wait | ∃ q ∈ flying, wait = q.deadline timeout - now} (p.deadline timeout - now) := by
  refine ⟨⟨p, List.mem_of_mem_head? front, rfl⟩, ?_⟩
  rintro _ ⟨q, member, rfl⟩
  cases flying with
  | nil => nomatch member
  | cons first rest =>
    obtain rfl : first = p := Option.some.inj front
    rcases List.mem_cons.mp member with rfl | behind
    · exact Nat.le_refl _
    · have order := (List.pairwise_cons.mp ordered).1 q behind
      simp only [Probe.deadline, Millis.add]
      omega

/-- A look for timeouts sends again or gives up each probe that is due, in the order of the table, and no other. -/
theorem expiry_is_exact (timeout : Duration) (parallel retries : Nat) {s : Sweep} {time now : Nat}
    {sent : List (Dispatch × Nat)} (reaches : Reaches (.ofLimits timeout parallel retries) time sent s)
    (order : time ≤ now) :
    let after := (s.expire now).2
    s.flying.Pairwise (fun a b => a.sentAt ≤ b.sentAt) ∧
    (∀ p ∈ after.flying, now < Millis.add p.sentAt timeout.millis) ∧
    (after.flying ≠ [] → ∃ wait, after.nextTimeout? now = some wait ∧ 0 < wait ∧
      IsLeast {w | ∃ p ∈ after.flying, w = Millis.add p.sentAt timeout.millis - now} wait) ∧
    (1 ≤ timeout.millis → now + timeout.millis ≤ Millis.last →
      let late := s.flying.filter fun p => Millis.add p.sentAt timeout.millis ≤ now
      let early := s.flying.filter fun p => now < Millis.add p.sentAt timeout.millis
      let again := (late.filter (·.retries < retries)).mapIdx fun i p =>
        { p with sequence := s.nextSequence + UInt16.ofNat i, sentAt := now, retries := p.retries + 1 }
      (s.expire now).1.retried = again.map (fun p => ⟨p.target, p.sequence⟩) ∧
      (s.expire now).1.dropped = late.filter (retries ≤ ·.retries) ∧
      after = { s with flying := early ++ again, nextSequence := s.nextSequence + UInt16.ofNat again.length } ∧
      ∀ p ∈ late, (p.dispatch, p.sentAt) ∈ sent ∧ p.sentAt + timeout.millis ≤ now) := by
  intro after
  have dated : Dated now sent s.flying := reaches.dated.later order
  have paced : s.pace = .ofLimits timeout parallel retries := reaches.paced
  have limit : s.pace.timeout = timeout.millis := by rw [paced]; rfl
  have ordered : after.flying.Pairwise (·.sentAt ≤ ·.sentAt) := (expired_dated dated).ordered
  have waits : ∀ p ∈ after.flying, now < Millis.add p.sentAt timeout.millis := by
    rw [← limit]
    exact undue_of_front ordered fun _ front => expired_settled front
  refine ⟨dated.ordered, waits, ?_, ?_⟩
  · intro some
    obtain ⟨p, front⟩ := Option.isSome_iff_exists.mp (List.isSome_head?.mpr some)
    refine ⟨Millis.add p.sentAt timeout.millis - now, ?_, ?_, nextTimeout_isLeast ordered front⟩
    · have kept : after.pace.timeout = timeout.millis := limit
      rw [nextTimeout?, front, kept]
      rfl
    · exact Nat.sub_pos_of_lt (waits p (List.mem_of_mem_head? front))
  · intro positive room late early again
    have lasts : now < Millis.add now s.pace.timeout := by
      rw [limit, Millis.add_eq room]
      omega
    have all := expire_eq dated.ordered lasts
    have allowed : s.pace.retries = retries := by rw [paced]; rfl
    rw [limit, allowed] at all
    refine ⟨congrArg (·.1.retried) all, congrArg (·.1.dropped) all, congrArg Prod.snd all, ?_⟩
    intro p member
    obtain ⟨flies, come⟩ := List.mem_filter.mp member
    have come : Millis.add p.sentAt timeout.millis ≤ now := of_decide_eq_true come
    have past := dated.past p flies
    rw [Millis.add_eq (by omega)] at come
    exact ⟨dated.flights p flies, come⟩

open History (neighbour neighbours twoAtATime load_neighbours)

/-- The first of three probes is answered, which lets the third into the table behind the second. -/
def lateComer : Sweep :=
  ⟨twoAtATime, [], [(neighbour 1).launched 1 0, (neighbour 2).launched 2 3000], 3, 3⟩

theorem lateComer_expires :
    let sent :=
      [((neighbour 2).launched 2 3000, 3000), ((neighbour 1).launched 1 0, 0), ((neighbour 0).launched 0 0, 0)]
    Reaches (.ofLimits ⟨5, 0⟩ 2 2) 3000 (sent.map fun e => (e.1.dispatch, e.2)) lateComer ∧
    3000 ≤ 5000 ∧ 1 ≤ (⟨5, 0⟩ : Duration).millis ∧ 5000 + (⟨5, 0⟩ : Duration).millis ≤ Millis.last ∧
    (lateComer.expire 5000).1 = ⟨[⟨(neighbour 1).target, 3⟩], []⟩ ∧
    (lateComer.expire 5000).2.flying = [(neighbour 2).launched 2 3000, ((neighbour 1).launched 1 0).resent 3 5000] ∧
    (lateComer.expire 5000).2.nextTimeout? 5000 = some 3000 := by
  intro sent
  have loaded : Reaches twoAtATime 0 [] (load { pace := twoAtATime } (neighbours 3)) := .load _ .fresh
  rw [load_neighbours] at loaded
  have answered := Reaches.answer (k := 0) (Nat.zero_le 3000) rfl (loaded.fill (Nat.le_refl 0))
  have reaches : Reaches (.ofLimits ⟨5, 0⟩ 2 2) 3000 (sent.map fun e => (e.1.dispatch, e.2)) lateComer :=
    answered.fill (Nat.le_refl 3000)
  have positive : 1 ≤ (⟨5, 0⟩ : Duration).millis := by decide
  have room : 5000 + (⟨5, 0⟩ : Duration).millis ≤ Millis.last := by decide
  obtain ⟨_, _, _, treated⟩ := expiry_is_exact ⟨5, 0⟩ 2 2 reaches (show 3000 ≤ 5000 by decide)
  obtain ⟨retried, dropped, after, _⟩ := treated positive room
  have flying : (lateComer.expire 5000).2.flying =
      [(neighbour 2).launched 2 3000, ((neighbour 1).launched 1 0).resent 3 5000] := congrArg Sweep.flying after
  refine ⟨reaches, by decide, positive, room, ?_, flying, ?_⟩
  · exact congrArg₂ Expiry.mk retried dropped
  · rw [nextTimeout?, flying]
    rfl

end RelayQuality.Sweep
