import Mathlib.Data.List.Chain
import RelayQuality.Proofs.Notices

/-!
# No notice is lost

A `Watched` monitor goes with what subscribers saw of its cities at the last notice. What they have not seen
has an alarm, which rings no later than the delay after the change. Between two such rings lies at least the delay.
-/

namespace RelayQuality

namespace Monitor

/-- The monitor once an answer is kept, before the sweep goes on. -/
def kept (m : Monitor) (now : Reading) (sequence : UInt16) : Monitor :=
  match m.sweep.takeReply sequence now.millis with
  | none => m
  | some (reply, rest) =>
    if m.hasTransport then { m with sweep := rest }.recordLatency now reply.probe.key reply.latency else m

/-- The states that an operation goes through, the last one being where it ends. -/
def passes (m : Monitor) (s : Surroundings) : Operation → List Monitor
  | .ring => [m.sweepRung s, m.cooled s, m.ring s]
  | .hearReply k => [m.kept s.now k, m.hearReply s.now k]
  | .hear ⟨g, .reply k⟩ => if g = m.generation then [m.kept s.now k, m.hearReply s.now k] else [m]
  | op => [m.step s op]

/-- There is no notice on the way, or the catalog stays as it is. -/
def Plain (m n : Monitor) : Prop := n.notices = m.notices ∨ n.catalog = m.catalog

variable {m n : Monitor}

theorem plain_of_log (same : n.log = m.log) : Plain m n := Or.inl (congrArg Effect.notices same)

theorem plain_of_frame (same : n.frame = m.frame) : Plain m n := Or.inr (congrArg Frame.catalog same)

theorem kept_cases (m : Monitor) (now : Reading) (k : UInt16) :
    (m.kept now k = m ∧ m.hearReply now k = m) ∨
    ∃ p, m.kept now k = m.answered now p ∧ m.hearReply now k = (m.answered now p).tick now := by
  unfold hearReply kept
  cases taken : m.sweep.takeReply k now.millis with
  | none => exact Or.inl ⟨rfl, ite_self _⟩
  | some found =>
    obtain ⟨reply, rest⟩ := found
    obtain ⟨p, _, rfl, rfl, rfl⟩ := Sweep.takeReply_some taken
    by_cases transport : m.hasTransport = true
    · rw [if_pos transport]
      exact Or.inr ⟨p, if_pos transport, rfl⟩
    · exact Or.inl ⟨if_neg transport, if_neg transport⟩

theorem kept_log (m : Monitor) (now : Reading) (k : UInt16) : (m.kept now k).log = m.log := by
  rcases kept_cases m now k with ⟨same, _⟩ | ⟨p, same, _⟩ <;> rw [same]
  exact log_answered m now p

theorem hearReply_plain (m : Monitor) (now : Reading) (k : UInt16) :
    [m, m.kept now k, m.hearReply now k].IsChain Plain := by
  have before : Plain m (m.kept now k) := plain_of_log (kept_log m now k)
  have after : Plain (m.kept now k) (m.hearReply now k) := by
    rcases kept_cases m now k with ⟨same, heard⟩ | ⟨p, same, heard⟩ <;> rw [same, heard]
    · exact Or.inl rfl
    · exact plain_of_frame (frame_tick _ now)
  simp [before, after]

theorem ring_plain (m : Monitor) (s : Surroundings) :
    [m, m.sweepRung s, m.cooled s, m.ring s].IsChain Plain := by
  have swept : Plain m (m.sweepRung s) := plain_of_frame (frame_sweepRung m s)
  have cooled : Plain (m.sweepRung s) (m.cooled s) := by
    unfold cooled
    split
    · exact plain_of_log (log_clearExpiredCooldowns _ s.now)
    · exact Or.inl rfl
  have rung : Plain (m.cooled s) (m.ring s) := by
    rw [ring_cooled]
    split <;> exact Or.inr rfl
  simp [swept, cooled, rung]

/-- So the cities stood at the last notice as they stand where the pass of that notice ends. -/
theorem passes_plain (m : Monitor) (s : Surroundings) {op : Operation}
    (untouched : ∀ countries, op ≠ .replaceCatalog countries) : (m :: m.passes s op).IsChain Plain := by
  have single : ∀ {n}, Plain m n → [m, n].IsChain Plain := List.isChain_pair.mpr
  cases op with
  | ring => exact ring_plain m s
  | hearReply k => exact hearReply_plain m s.now k
  | hear event =>
    obtain ⟨g, k | text⟩ := event
    · simp only [passes]
      split
      · exact hearReply_plain m s.now k
      · exact single (Or.inl rfl)
    · exact single (Or.inl (congrArg notices (hear_failure m s.now g text)))
  | activate => exact single (plain_of_frame (frame_activate m s.now))
  | start => exact single (plain_of_frame (frame_start m s))
  | stop => exact single (plain_of_frame (frame_stop m s.now))
  | refresh => exact single (plain_of_frame (frame_refresh m s))
  | clear => exact single (Or.inr rfl)
  | shutdown => exact single (Or.inr rfl)
  | tick => exact single (plain_of_frame (frame_tick m s.now))
  | catalogChanged => exact single (plain_of_frame (frame_start m s))
  | clearExpiredCooldowns => exact single (plain_of_log (log_clearExpiredCooldowns m s.now))
  | setEnabled enabled => exact single (plain_of_frame (frame_setEnabled m s enabled))
  | setObserver o => exact single (plain_of_log (log_rerateAll _ s.now))
  | setTunnel tunnel => exact single (Or.inr (setTunnel_catalog m s tunnel))
  | setApplication application => exact single (Or.inr (setApplication_catalog m s application))
  | recordLatency key ms => exact single (plain_of_log (log_rerateKey _ s.now key))
  | setCooldown key timeout => exact single (plain_of_log (log_setCooldown m s.now key timeout))
  | setCityCooldown country code timeout =>
    exact single (plain_of_log (log_setCityCooldown m s.now country code timeout))
  | replaceCatalog countries => exact absurd rfl (untouched countries)

end Monitor

/-- A monitor with its cities as they stood at the last notice, or at the beginning. -/
structure Watched where
  monitor : Monitor
  shown : List (Nat × Grade)

namespace Watched

open Monitor

def pass (w : Watched) (next : Monitor) : Watched :=
  ⟨next, if next.notices = w.monitor.notices then w.shown else next.standings⟩

def step (w : Watched) (s : Surroundings) (op : Operation) : Watched := (w.monitor.passes s op).foldl pass w

def run (w : Watched) (operations : List (Surroundings × Operation)) : Watched :=
  operations.foldl (fun w entry => w.step entry.1 entry.2) w

/-- Something is not as it was at the last notice. -/
def Stale (w : Watched) : Prop :=
  w.monitor.progress ≠ w.monitor.lastNotice.progress ∨ w.monitor.standings ≠ w.shown

/-- What is stale waits for an alarm. -/
structure Prompt (w : Watched) : Prop where
  settled : w.monitor.Settled
  shown : w.monitor.alarms.progress = none → w.monitor.standings = w.shown

variable {w : Watched} {n : Monitor}

theorem Prompt.armed (prompt : Prompt w) (stale : w.Stale) : ∃ d, w.monitor.alarms.progress = some d := by
  cases set : w.monitor.alarms.progress with
  | some d => exact ⟨d, rfl⟩
  | none =>
    rcases stale with progress | standings
    · exact absurd (prompt.settled.progress set) progress
    · exact absurd (prompt.shown set) standings

theorem step_monitor (w : Watched) (s : Surroundings) (op : Operation) :
    (w.step s op).monitor = w.monitor.step s op := by
  cases op with
  | hear event =>
    obtain ⟨g, k | text⟩ := event
    · simp only [step, passes, Monitor.step, hear_reply]
      split <;> rfl
    · rfl
  | _ => rfl

theorem run_monitor (w : Watched) (operations : List (Surroundings × Operation)) :
    (w.run operations).monitor = w.monitor.run operations := by
  induction operations generalizing w with
  | nil => rfl
  | cons entry rest ih =>
    obtain ⟨s, op⟩ := entry
    exact (ih (w.step s op)).trans (congrArg (Monitor.run · rest) (step_monitor w s op))

/-! ### Passes -/

theorem pass_announced (longer : w.monitor.notices.length < n.notices.length) (settled : n.Settled) :
    Prompt (w.pass n) := by
  refine ⟨settled, fun _ => ?_⟩
  have new : n.notices ≠ w.monitor.notices := fun same => Nat.lt_irrefl _ (same ▸ longer)
  simp [pass, new]

theorem pass_prompt {now : Nat} (prompt : Prompt w) (tells : Tells now w.monitor n) : Prompt (w.pass n) := by
  rcases tells.heard with quiet | ⟨longer, settled⟩
  · refine ⟨prompt.settled.quiet quiet, fun off => ?_⟩
    simp only [pass, quiet.notices, if_true]
    rw [(quiet.view off).2]
    exact prompt.shown (quiet.unarmed off)
  · exact pass_announced longer settled

/-- What an answer leaves on the way is not announced. -/
theorem pass_kept (w : Watched) (now : Reading) (k : UInt16) (n : Monitor) :
    (w.pass (w.monitor.kept now k)).pass n = w.pass n := by
  have same : (w.monitor.kept now k).notices = w.monitor.notices := congrArg Effect.notices (kept_log _ now k)
  simp [pass, same]

theorem step_eq_pass (w : Watched) (s : Surroundings) {op : Operation} (other : op ≠ .ring) :
    w.step s op = w.pass (w.monitor.step s op) := by
  cases op with
  | ring => exact absurd rfl other
  | hearReply k => exact pass_kept w s.now k _
  | hear event =>
    obtain ⟨g, k | text⟩ := event
    · simp only [step, passes, Monitor.step, hear_reply]
      split
      · exact pass_kept w s.now k _
      · rfl
    · rfl
  | _ => rfl

theorem ring_prompt (s : Surroundings) (prompt : Prompt w) : Prompt (w.step s .ring) := by
  change Prompt (((w.pass (w.monitor.sweepRung s)).pass (w.monitor.cooled s)).pass (w.monitor.ring s))
  rw [ring_cooled]
  cases due : Alarms.isDue w.monitor.alarms.progress s.now.millis with
  | true =>
    -- the alarm was taken away before the others rang, so only the notice in the end settles what they did
    exact pass_announced (length_notices_lt rfl (List.suffix_refl _)) (settled_of_announced rfl)
  | false =>
    have swept := pass_prompt prompt ((rested_tells due).trans (sweepRung_tells w.monitor s))
    have cooled := pass_prompt swept (cooled_tells w.monitor s)
    exact pass_prompt cooled (.refl s.now.millis _)

theorem step_prompt (s : Surroundings) {op : Operation} (untouched : ∀ countries, op ≠ .replaceCatalog countries)
    (prompt : Prompt w) : Prompt (w.step s op) := by
  by_cases rings : op = .ring
  · subst rings
    exact ring_prompt s prompt
  · rw [step_eq_pass w s rings]
    exact pass_prompt prompt (step_tells s rings untouched)

/-! ### Runs -/

theorem run_prompt {operations : List (Surroundings × Operation)}
    (untouched : ∀ entry ∈ operations, ∀ countries, entry.2 ≠ .replaceCatalog countries) (prompt : Prompt w) :
    Prompt (w.run operations) := by
  induction operations generalizing w with
  | nil => exact prompt
  | cons entry rest ih =>
    obtain ⟨first, others⟩ := List.forall_mem_cons.mp untouched
    exact ih others (step_prompt entry.1 first prompt)

end Watched

theorem Millis.add_mono {a b : Nat} (order : a ≤ b) (delay : Nat) : add a delay ≤ add b delay := by
  unfold add
  omega

namespace Monitor

/-- The alarm for notices is not set, or set to a time between two others. -/
structure Window (delay low high : Nat) (m : Monitor) : Prop where
  delayed : m.config.progressDelay.millis = delay
  within : ∀ d, m.alarms.progress = some d → low ≤ d ∧ d ≤ high

variable {delay low high : Nat} {m : Monitor}

theorem step_window {s : Surroundings} {op : Operation}
    (now : low ≤ Millis.add s.now.millis delay ∧ Millis.add s.now.millis delay ≤ high)
    (window : Window delay low high m) : Window delay low high (m.step s op) := by
  obtain ⟨rfl, within⟩ := window
  obtain ⟨same, origin⟩ := step_origin m s op
  refine ⟨congrArg (·.progressDelay.millis) same, ?_⟩
  intro d set
  rcases origin d set with old | rfl
  · exact within d old
  · exact now

/-- The alarm for notices is set to the delay from now at the latest. -/
theorem run_window {operations : List (Surroundings × Operation)} (forward : Forward Reading.millis operations)
    (off : m.alarms.progress = none) {time : Nat} (past : ∀ entry ∈ operations, entry.1.now.millis ≤ time) :
    Window m.config.progressDelay.millis 0 (Millis.add time m.config.progressDelay.millis) (m.run operations) := by
  refine run_keeps_later
    (I := fun time => Window m.config.progressDelay.millis 0 (Millis.add time m.config.progressDelay.millis))
    ?_ ?_ ?_ forward (fun _ _ => trivial) past
  · intro n a b order window
    refine ⟨window.delayed, fun d set => ⟨Nat.zero_le d, ?_⟩⟩
    exact Nat.le_trans (window.within d set).2 (Millis.add_mono order _)
  · intro n s op _ window
    exact step_window ⟨Nat.zero_le _, Nat.le_refl _⟩ window
  · intro time
    exact ⟨rfl, fun d set => nomatch off.symm.trans set⟩

/-- Once the alarm for notices rang, it is set to the delay from then at the earliest. -/
theorem rung_window {s : Surroundings} {after : List (Surroundings × Operation)}
    (due : Alarms.isDue m.alarms.progress s.now.millis = true)
    (later : ∀ entry ∈ after, s.now.millis ≤ entry.1.now.millis) :
    Window m.config.progressDelay.millis (Millis.add s.now.millis m.config.progressDelay.millis) Millis.last
      ((m.step s .ring).run after) := by
  have rung : Window m.config.progressDelay.millis (Millis.add s.now.millis m.config.progressDelay.millis)
      Millis.last (m.step s .ring) := by
    refine ⟨congrArg (·.progressDelay.millis) (ring_config m s), ?_⟩
    intro d set
    rcases ring_origin set with ⟨old, early⟩ | rfl
    · rw [old] at due
      exact absurd (of_decide_eq_true due) (Nat.not_le_of_gt early)
    · exact ⟨Nat.le_refl _, Millis.add_le_last _ _⟩
  refine run_keeps ?_ rung later
  intro n t op order window
  exact step_window ⟨Millis.add_mono order _, Millis.add_le_last _ _⟩ window

theorem notices_run (m : Monitor) (operations : List (Surroundings × Operation)) :
    m.notices <+: (m.run operations).notices := by
  induction operations generalizing m with
  | nil => exact List.prefix_refl _
  | cons entry rest ih => exact (Effect.notices_prefix (step_log m entry.1 entry.2)).trans (ih _)

/-- While nothing is announced, the alarm for notices stays as it is set. -/
theorem run_alarm {operations : List (Surroundings × Operation)}
    (silent : (m.run operations).notices = m.notices) {d : Nat} (set : m.alarms.progress = some d) :
    (m.run operations).alarms.progress = some d := by
  induction operations generalizing m with
  | nil => exact set
  | cons entry rest ih =>
    obtain ⟨s, op⟩ := entry
    rw [run_cons] at silent ⊢
    -- notices are only added, so that none at the end means none in this step either
    have grown := Effect.notices_prefix (step_log m s op)
    have later := notices_run (m.step s op) rest
    rw [silent] at later
    have still : (m.step s op).notices = m.notices := later.eq_of_length_le grown.length_le
    exact ih (silent.trans still.symm) (step_alarm s op still set)

/-! ### Results -/

theorem stale_has_alarm {w : Watched} {before after : List (Surroundings × Operation)} {s : Surroundings}
    {op : Operation} (prompt : w.Prompt) (off : w.monitor.alarms.progress = none)
    (forward : Forward Reading.millis (before ++ (s, op) :: after))
    (untouched : ∀ entry ∈ before ++ (s, op) :: after, ∀ countries, entry.2 ≠ .replaceCatalog countries)
    (stale : (w.run (before ++ [(s, op)])).Stale)
    (silent : (w.monitor.run (before ++ (s, op) :: after)).notices =
      (w.run (before ++ [(s, op)])).monitor.notices) :
    ∃ deadline, (w.monitor.run (before ++ (s, op) :: after)).alarms.progress = some deadline ∧
      deadline ≤ Millis.add s.now.millis w.monitor.config.progressDelay.millis := by
  rw [List.append_cons] at forward untouched
  have own := (List.forall_mem_append.mp untouched).1
  have ordered : Forward Reading.millis (before ++ [(s, op)]) := (List.pairwise_append.mp forward).1
  have past : ∀ entry ∈ before ++ [(s, op)], entry.1.now.millis ≤ s.now.millis := by
    intro entry member
    rcases List.mem_append.mp member with old | new
    · exact (forward_concat.mp ordered).2 entry old
    · obtain rfl := List.mem_singleton.mp new
      exact Nat.le_refl _
  -- the alarm is set within the delay at this operation, and later ones leave it, since none announces
  obtain ⟨d, set⟩ := (Watched.run_prompt own prompt).armed stale
  have split : w.monitor.run (before ++ (s, op) :: after) = (w.monitor.run (before ++ [(s, op)])).run after := by
    rw [← run_append, ← List.append_cons]
  rw [Watched.run_monitor] at set silent
  rw [split] at silent ⊢
  exact ⟨d, run_alarm silent set, ((run_window ordered off past).within d set).2⟩

theorem ring_notices (m : Monitor) (s : Surroundings) :
    (m.ring s).notices = (m.cooled s).notices ++
      if Alarms.isDue m.alarms.progress s.now.millis then [(m.ring s).notice] else [] := by
  rw [ring_cooled]
  split
  · exact notices_of_announced rfl
  · rw [List.append_nil]

theorem rings_lie_apart {before after : List (Surroundings × Operation)} {s : Surroundings} {next : Nat}
    (forward : Forward Reading.millis (before ++ (s, .ring) :: after))
    (due : Alarms.isDue (m.run before).alarms.progress s.now.millis = true)
    (bounded : s.now.millis + m.config.progressDelay.millis ≤ Millis.last)
    (rung : Alarms.isDue (m.run (before ++ (s, .ring) :: after)).alarms.progress next = true) :
    s.now.millis + m.config.progressDelay.millis ≤ next := by
  have later := (List.pairwise_cons.mp (List.pairwise_append.mp forward).2.1).1
  have split : m.run (before ++ (s, .ring) :: after) = ((m.run before).step s .ring).run after := by
    rw [← run_concat, ← run_append, ← List.append_cons]
  have window := rung_window due later
  rw [run_config] at window
  rw [split] at rung
  cases set : (((m.run before).step s .ring).run after).alarms.progress with
  | none => simp [set, Alarms.isDue] at rung
  | some d =>
    have low := (window.within d set).1
    rw [Millis.add_eq bounded] at low
    rw [set] at rung
    exact Nat.le_trans low (of_decide_eq_true rung)

/-- What changes is announced within the delay and not twice in it, and the last notice says whether a sweep is running.
-/
theorem no_notice_is_lost (config : Config) (catalog : Catalog) {operations : List (Surroundings × Operation)}
    (forward : Forward Reading.millis operations)
    (untouched : ∀ entry ∈ operations, ∀ countries, entry.2 ≠ .replaceCatalog countries) :
    let fresh : Watched := ⟨ofConfig config catalog, catalog.cities.map City.standing⟩
    let m := (ofConfig config catalog).run operations
    (fresh.run operations).monitor = m ∧
    (∀ s op, (∀ countries, op ≠ .replaceCatalog countries) → (m :: m.passes s op).IsChain Plain) ∧
    (m.lastNotice.phase = .sweeping ↔ m.hasTransport = true) ∧
    (∀ before s op after, operations = before ++ (s, op) :: after →
      (fresh.run (before ++ [(s, op)])).Stale → m.notices = (fresh.run (before ++ [(s, op)])).monitor.notices →
      ∃ deadline, m.alarms.progress = some deadline ∧
        deadline ≤ Millis.add s.now.millis config.progressDelay.millis) ∧
    (∀ s, (m.ring s).notices = (m.cooled s).notices ++
      if Alarms.isDue m.alarms.progress s.now.millis then [(m.ring s).notice] else []) ∧
    (∀ before s after, operations = before ++ (s, .ring) :: after →
      Alarms.isDue ((ofConfig config catalog).run before).alarms.progress s.now.millis = true →
      s.now.millis + config.progressDelay.millis ≤ Millis.last →
      ∀ next, Alarms.isDue m.alarms.progress next = true → s.now.millis + config.progressDelay.millis ≤ next) := by
  intro fresh m
  have prompt : fresh.Prompt := by
    refine ⟨⟨?_, fun _ => rfl⟩, fun _ => rfl⟩
    simp [lastNotice, notices, Effect.notices, fresh, ofConfig]
  refine ⟨Watched.run_monitor fresh operations, fun s op own => passes_plain m s own, ?_, ?_, ring_notices m, ?_⟩
  · have settled := (Watched.run_prompt untouched prompt).settled
    rw [Watched.run_monitor] at settled
    exact settled.phase
  · rintro before s op after rfl stale silent
    exact stale_has_alarm prompt rfl forward untouched stale silent
  · rintro before s after rfl due bounded next rung
    exact rings_lie_apart (m := ofConfig config catalog) forward due bounded rung

def soleCity : Catalog :=
  ⟨[⟨"se", "Sweden", [{ code := "got", name := "Gothenburg", country := "se", place := default
                        relays := [⟨"a", default⟩] }]⟩]⟩

/-- A sweep that cannot begin takes the alarm of a sample with it, the next one rings in time, and the last
two samples share an alarm. -/
def failedStart : List (Surroundings × Operation) :=
  [(⟨⟨0, 0⟩, true⟩, .recordLatency "a" 40), (⟨⟨100, 0⟩, false⟩, .start), (⟨⟨300, 0⟩, true⟩, .recordLatency "a" 20),
    (⟨⟨800, 0⟩, true⟩, .ring), (⟨⟨900, 0⟩, true⟩, .recordLatency "a" 50), (⟨⟨1300, 1⟩, true⟩, .recordLatency "a" 60)]

theorem failedStart_told :
    let fresh : Watched := ⟨ofConfig {} soleCity, soleCity.cities.map City.standing⟩
    let m := (ofConfig {} soleCity).run failedStart
    Forward Reading.millis failedStart ∧
    (∀ entry ∈ failedStart, ∀ countries, entry.2 ≠ .replaceCatalog countries) ∧
    m.notices.length = 2 ∧ m.lastNotice.phase ≠ .sweeping ∧
    (fresh.run (failedStart.take 4 ++ [(⟨⟨900, 0⟩, true⟩, .recordLatency "a" 50)])).Stale ∧
    (∃ deadline, m.alarms.progress = some deadline ∧ deadline ≤ 900 + 500) ∧
    Alarms.isDue m.alarms.progress 1400 = true ∧ 800 + 500 ≤ 1400 := by
  intro fresh m
  have forward : Forward Reading.millis failedStart := by simp [Forward, failedStart]
  have untouched : ∀ entry ∈ failedStart, ∀ countries, entry.2 ≠ .replaceCatalog countries := by simp [failedStart]
  have stale : (fresh.run (failedStart.take 4 ++ [(⟨⟨900, 0⟩, true⟩, .recordLatency "a" 50)])).Stale := by
    refine Or.inr ?_
    decide
  have silent : m.notices =
      (fresh.run (failedStart.take 4 ++ [(⟨⟨900, 0⟩, true⟩, .recordLatency "a" 50)])).monitor.notices := by
    decide
  have delay : ({} : Config).progressDelay.millis = 500 := by decide
  obtain ⟨_, _, phase, alarm, _, apart⟩ := no_notice_is_lost {} soleCity forward untouched
  rw [delay] at alarm apart
  have rung : Alarms.isDue m.alarms.progress 1400 = true := by decide
  refine ⟨forward, untouched, rfl, ?_, stale, ?_, rung, ?_⟩
  · exact fun sweeping => absurd (phase.mp sweeping) Bool.false_ne_true
  · obtain ⟨d, set, soon⟩ := alarm _ _ _ (failedStart.drop 5) rfl stale silent
    exact ⟨d, set, Nat.le_trans soon (by decide)⟩
  · exact apart (failedStart.take 3) ⟨⟨800, 0⟩, true⟩ (failedStart.drop 4) rfl (by decide) (by decide) 1400 rung

end Monitor

end RelayQuality
