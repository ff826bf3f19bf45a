import RelayQuality.Proofs.Availability

/-!
# Starts that fail

A sweep is prepared before its transport is opened. `start_failed` says what is left where no transport opens: a new
generation, an empty sweep and the alarm for the next attempt. All that a start finds there it writes anew, so an
attempt that succeeds later makes the same sweep as one that succeeds at once (`Alike.start`).
-/

namespace RelayQuality

namespace Effect

theorem transmissions_announced (notice : Notice) (log : List Effect) :
    transmissions (.announced notice :: log) = transmissions log := by
  simp [transmissions]

theorem transmissions_opened (generation : Nat) (log : List Effect) :
    transmissions (.opened generation :: log) = transmissions log := by
  simp [transmissions]

theorem transmissions_sent (dispatches : List Dispatch) (generation now : Nat) (log : List Effect) :
    transmissions ((dispatches.map fun d => .sent generation d now).reverse ++ log) =
      transmissions log ++ dispatches.map (generation, ·, now) := by
  simp only [transmissions, List.reverse_append, List.reverse_reverse, List.filterMap_append, List.filterMap_map]
  rw [← List.filterMap_eq_map]
  rfl

end Effect

namespace Monitor

open Effect (transmissions)

variable {m n : Monitor} {s : Surroundings}

/-- A start begins a sweep if a transport opens. -/
structure MayStart (m : Monitor) : Prop where
  enabled : m.enabled = true
  free : m.isHeld = false
  idle : m.hasTransport = false

/-! ### What failure leaves -/

theorem start_failed (may : m.MayStart) (fails : s.transportOpens = false) :
    m.start s = { m with
      generation := m.generation + 1
      hasTransport := false
      sweep := { pace := m.sweep.pace }
      wantsSweep := false
      alarms :=
        { probe := none
          refresh := some (m.alarms.refresh.getD (Millis.add s.now.millis m.config.refreshInterval.millis))
          cooldown := m.alarms.cooldown
          progress := none }
      log := .announced ⟨.complete, .idle⟩ :: m.log } := by
  have stopped : m.start s = m.prepared.stop s.now := by
    simp [start, may.enabled, may.free, may.idle, fails]
  have notice : m.prepared.halt.log = .announced ⟨.complete, .idle⟩ :: m.log := by
    show .announced ⟨.complete, if m.isHeld then .suspended else .idle⟩ :: m.log = _
    rw [may.free]
    rfl
  have refresh : (if m.prepared.enabled && m.prepared.alarms.refresh.isNone then
      some (Millis.add s.now.millis m.prepared.config.refreshInterval.millis) else m.prepared.alarms.refresh) =
        some (m.alarms.refresh.getD (Millis.add s.now.millis m.config.refreshInterval.millis)) := by
    show (if m.enabled && m.alarms.refresh.isNone then
      some (Millis.add s.now.millis m.config.refreshInterval.millis) else m.alarms.refresh) = _
    rw [may.enabled]
    cases m.alarms.refresh <;> rfl
  rw [stopped, stop_eq, refresh, ← notice]
  rfl

/-! ### What a start writes anew -/

/-- The second monitor differs from the first in nothing but what a start writes anew, and in the log. -/
def Alike (m n : Monitor) : Prop :=
  ∃ generation wantsSweep sweep probe refresh progress log, sweep.pace = m.sweep.pace ∧
    n = { m with generation, wantsSweep, sweep, log, alarms := ⟨probe, refresh, m.alarms.cooldown, progress⟩ }

theorem Alike.refl (m : Monitor) : m.Alike m := ⟨_, _, _, _, _, _, _, rfl, rfl⟩

theorem Alike.trans {k : Monitor} (first : m.Alike n) (second : n.Alike k) : m.Alike k := by
  obtain ⟨_, _, _, _, _, _, _, pace, rfl⟩ := first
  obtain ⟨_, _, _, _, _, _, _, pace', rfl⟩ := second
  exact ⟨_, _, _, _, _, _, _, pace'.trans pace, rfl⟩

theorem Alike.mayStart (alike : m.Alike n) (may : m.MayStart) : n.MayStart := by
  obtain ⟨_, _, _, _, _, _, _, _, rfl⟩ := alike
  exact ⟨may.enabled, may.free, may.idle⟩

theorem alike_failed (may : m.MayStart) (fails : s.transportOpens = false) : m.Alike (m.start s) := by
  refine ⟨m.generation + 1, false, { pace := m.sweep.pace }, none,
    some (m.alarms.refresh.getD (Millis.add s.now.millis m.config.refreshInterval.millis)), none,
    .announced ⟨.complete, .idle⟩ :: m.log, rfl, ?_⟩
  rw [start_failed may fails, may.idle]

theorem transmissions_tick (opened : m.hasTransport = true) (now : Reading) :
    transmissions (m.tick now).log =
      transmissions m.log ++ (m.sweep.sends now.millis).map (m.generation, ·, now.millis) := by
  have advanced : transmissions (m.advanced now.millis).log =
      transmissions m.log ++ (m.sweep.sends now.millis).map (m.generation, ·, now.millis) := by
    rw [advanced_eq]
    exact Effect.transmissions_sent _ _ _ _
  rcases tick_cases m now with ⟨closed, _⟩ | ⟨_, _, same⟩ | ⟨_, p, rest, _, same⟩
  · exact absurd closed (by simp [opened])
  · rw [same, stop_eq]
    exact (Effect.transmissions_announced _ _).trans advanced
  · rw [same]
    exact advanced

/-- Generation, log and the old deadline of the probe alarm do not matter to a tick. -/
theorem tick_relabeled (opened : m.hasTransport = true) (now : Reading) (generation : Nat) (probe : Option Nat)
    (log : List Effect) :
    let n := { m with generation, log, alarms.probe := probe }
    n.tick now = { m.tick now with generation, log := (n.tick now).log } := by
  intro n
  have ticked : ∀ k : Monitor, k.hasTransport = true → k.tick now = (k.advanced now.millis).awaitTimeout now := by
    intro k opened
    simp [tick, opened, advanced]
  rw [ticked m opened, ticked n opened, advanced_eq, advanced_eq, awaitTimeout, awaitTimeout]
  dsimp only [n]
  cases (m.sweep.advanced now.millis).nextTimeout? now.millis with
  | none =>
    rw [stop_eq, stop_eq]
    rfl
  | some wait => rfl

theorem start_opens (may : m.MayStart) (opens : s.transportOpens = true) :
    m.start s = m.prepared.opened.announce.tick s.now := by
  simp [start, may.enabled, may.free, may.idle, opens]

theorem transmissions_start (may : m.MayStart) (opens : s.transportOpens = true) :
    transmissions (m.start s).log = transmissions m.log ++
      ((m.sweep.load m.roster).sends s.now.millis).map (m.generation + 1, ·, s.now.millis) := by
  rw [start_opens may opens, transmissions_tick rfl]
  congr 1
  exact (Effect.transmissions_announced _ _).trans (Effect.transmissions_opened _ _)

theorem Alike.loaded (alike : m.Alike n) : n.sweep.load n.roster = m.sweep.load m.roster := by
  obtain ⟨_, _, sweep, _, _, _, _, pace, rfl⟩ := alike
  show sweep.load m.roster = m.sweep.load m.roster
  rw [Sweep.load, Sweep.load, pace]

theorem Alike.opened (alike : m.Alike n) :
    ∃ log, n.prepared.opened.announce = { m.prepared.opened.announce with
      generation := n.generation + 1, log, alarms.probe := n.alarms.probe } := by
  have loaded := alike.loaded
  obtain ⟨_, _, _, _, _, _, _, _, rfl⟩ := alike
  rw [prepared, loaded]
  exact ⟨_, rfl⟩

/-- Where two monitors are alike, a start that succeeds makes the same of them. -/
theorem Alike.start (alike : m.Alike n) (may : m.MayStart) (opens : s.transportOpens = true) :
    n.start s = { m.start s with generation := n.generation + 1, log := (n.start s).log } := by
  obtain ⟨log, same⟩ := alike.opened
  rw [start_opens (alike.mayStart may) opens, start_opens may opens, same]
  exact tick_relabeled rfl s.now (n.generation + 1) n.alarms.probe log

/-! ### Failures in a row -/

theorem failures_in_a_row (may : m.MayStart) {failed : List Surroundings}
    (fails : ∀ f ∈ failed, f.transportOpens = false) :
    m.Alike (failed.foldl start m) ∧ (failed.foldl start m).generation = m.generation + failed.length ∧
      transmissions (failed.foldl start m).log = transmissions m.log := by
  induction failed generalizing m with
  | nil => exact ⟨.refl m, rfl, rfl⟩
  | cons f rest ih =>
    obtain ⟨first, others⟩ := List.forall_mem_cons.mp fails
    have alike := alike_failed may first
    obtain ⟨later, generation, sent⟩ := ih (alike.mayStart may) others
    have failed := start_failed may first
    refine ⟨alike.trans later, generation.trans ?_, sent.trans ?_⟩
    · rw [failed, List.length_cons]
      show m.generation + 1 + rest.length = _
      omega
    · rw [failed]
      exact Effect.transmissions_announced _ _

/-- A start whose transport does not open leaves the alarm for the next attempt, and nothing that a later start would
show. -/
theorem failed_starts_are_transparent (may : m.MayStart) :
    (∀ s, s.transportOpens = false →
      transmissions (m.start s).log = transmissions m.log ∧
      m.start s = { m with
        generation := m.generation + 1
        hasTransport := false
        sweep := { pace := m.sweep.pace }
        wantsSweep := false
        alarms :=
          { probe := none
            refresh := some (m.alarms.refresh.getD (Millis.add s.now.millis m.config.refreshInterval.millis))
            cooldown := m.alarms.cooldown
            progress := none }
        log := .announced ⟨.complete, .idle⟩ :: m.log }) ∧
    ∀ (failed : List Surroundings) (s : Surroundings),
      (∀ f ∈ failed, f.transportOpens = false) → s.transportOpens = true →
      let alone := m.start s
      let late := (failed.foldl start m).start s
      late = { alone with generation := alone.generation + failed.length, log := late.log } ∧
      ∃ sent : List Dispatch,
        transmissions alone.log = transmissions m.log ++ sent.map (m.generation + 1, ·, s.now.millis) ∧
        transmissions late.log =
          transmissions m.log ++ sent.map (m.generation + failed.length + 1, ·, s.now.millis) := by
  constructor
  · intro s fails
    have failed := start_failed may fails
    refine ⟨?_, failed⟩
    rw [failed]
    exact Effect.transmissions_announced _ _
  · intro failed s fails opens alone late
    obtain ⟨alike, generation, unsent⟩ := failures_in_a_row may fails
    have sent := transmissions_start (alike.mayStart may) opens
    rw [alike.loaded, generation, unsent] at sent
    refine ⟨(alike.start may opens).trans ?_, _, transmissions_start may opens, sent⟩
    have began : alone.generation = m.generation + 1 := by
      obtain ⟨_, _, _, _, _, _, ticked⟩ := tick_shape m.prepared.opened.announce s.now
      show (m.start s).generation = m.generation + 1
      rw [start_opens may opens, ticked]
      rfl
    rw [generation, began, Nat.add_right_comm]

/-- Two attempts fail before the third one sends. -/
theorem thirdAttempt_succeeds :
    let m := (ofConfig {} twinRelays).run [(⟨⟨0, 100⟩, true⟩, .activate), (⟨⟨0, 100⟩, true⟩, .setCooldown "a" 60)]
    let failed : List Surroundings := [⟨⟨1000, 101⟩, false⟩, ⟨⟨2500, 102⟩, false⟩]
    let s : Surroundings := ⟨⟨4000, 104⟩, true⟩
    m.MayStart ∧ m.alarms = ⟨none, some 1000, some 60000, some 500⟩ ∧
    (failed.foldl start m).alarms = ⟨none, some 1000, some 60000, none⟩ ∧
    ((failed.foldl start m).start s).sweep = (m.start s).sweep ∧
    ((failed.foldl start m).start s).alarms = (m.start s).alarms ∧
    ∃ sent : List Dispatch, transmissions (m.start s).log = sent.map (1, ·, 4000) ∧
      transmissions ((failed.foldl start m).start s).log = sent.map (3, ·, 4000) := by
  intro m failed s
  have may : m.MayStart := ⟨rfl, rfl, rfl⟩
  obtain ⟨_, together⟩ := failed_starts_are_transparent may
  obtain ⟨late, sent, alone, again⟩ := together failed s (by decide) rfl
  refine ⟨may, by decide +kernel, by decide +kernel, ?_, ?_, sent, alone, again⟩
  · rw [late]
  · rw [late]

end Monitor

end RelayQuality
