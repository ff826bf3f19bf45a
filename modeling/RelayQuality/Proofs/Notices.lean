import RelayQuality.Proofs.Log
import RelayQuality.Proofs.Run

/-!
# Notices

What subscribers can see changes in two ways. Either nothing is announced, and the progress alarm is set unless
nothing changed, or a notice is the last word on phase and progress. `Tells` says so of a piece of work at one
moment, and pieces of work add up.
-/

namespace RelayQuality

/-- What subscribers look up of a city. -/
def City.standing (c : City) : Nat × Grade := (c.latency, c.grade)

theorem Alarms.rest_eq_some {alarm : Option Nat} {now d : Nat} :
    rest alarm now = some d ↔ alarm = some d ∧ now < d := by
  cases alarm with
  | none => simp [rest, isDue]
  | some e =>
    simp only [rest, isDue, Option.any_some, decide_eq_true_eq]
    split <;> simp only [Option.some.injEq, reduceCtorEq, false_iff] <;> omega

namespace Effect

@[simp] theorem notices_announced (notice : Notice) (log : List Effect) :
    notices (.announced notice :: log) = notices log ++ [notice] := by
  simp [notices]

@[simp] theorem notices_sent (generation now : Nat) (dispatches : List Dispatch) (log : List Effect) :
    notices ((dispatches.map fun d => Effect.sent generation d now).reverse ++ log) = notices log := by
  simp [notices, List.filterMap_map]

theorem notices_prefix {log longer : List Effect} (grown : log <:+ longer) : notices log <+: notices longer := by
  obtain ⟨newer, rfl⟩ := grown
  simp [notices]

end Effect

namespace Monitor

def notices (m : Monitor) : List Notice := Effect.notices m.log

/-- What was announced last; before the first notice, that nothing goes on. -/
def lastNotice (m : Monitor) : Notice := m.notices.getLast?.getD ⟨.complete, .idle⟩

def standings (m : Monitor) : List (Nat × Grade) := m.catalog.cities.map City.standing

structure Quiet (m n : Monitor) : Prop where
  notices : n.notices = m.notices
  transport : n.hasTransport = m.hasTransport
  alarm : ∀ d, m.alarms.progress = some d → n.alarms.progress = some d
  view : n.alarms.progress = none → n.progress = m.progress ∧ n.standings = m.standings

/-- The last notice is right, except that progress may be waiting for the next one. -/
structure Settled (m : Monitor) : Prop where
  phase : m.lastNotice.phase = .sweeping ↔ m.hasTransport = true
  progress : m.alarms.progress = none → m.progress = m.lastNotice.progress

structure Tells (now : Nat) (m n : Monitor) : Prop where
  config : n.config = m.config
  origin : ∀ d, n.alarms.progress = some d →
    m.alarms.progress = some d ∨ d = Millis.add now m.config.progressDelay.millis
  heard : Quiet m n ∨ m.notices.length < n.notices.length ∧ Settled n

variable {m n : Monitor} {now : Nat}

theorem Quiet.unarmed (quiet : Quiet m n) (off : n.alarms.progress = none) : m.alarms.progress = none := by
  cases set : m.alarms.progress with
  | none => rfl
  | some d => exact nomatch off.symm.trans (quiet.alarm d set)

theorem Quiet.trans {k : Monitor} (first : Quiet m n) (second : Quiet n k) : Quiet m k := by
  refine ⟨second.notices.trans first.notices, second.transport.trans first.transport, ?_, ?_⟩
  · exact fun d set => second.alarm d (first.alarm d set)
  · intro off
    obtain ⟨progress, standings⟩ := second.view off
    obtain ⟨progress', standings'⟩ := first.view (second.unarmed off)
    exact ⟨progress.trans progress', standings.trans standings'⟩

theorem Settled.quiet (settled : Settled m) (quiet : Quiet m n) : Settled n := by
  have last : n.lastNotice = m.lastNotice := by rw [lastNotice, quiet.notices, ← lastNotice]
  refine ⟨?_, ?_⟩
  · rw [last, quiet.transport]
    exact settled.phase
  · intro off
    rw [last, (quiet.view off).1]
    exact settled.progress (quiet.unarmed off)

namespace Tells

theorem refl (now : Nat) (m : Monitor) : Tells now m m :=
  ⟨rfl, fun _ set => Or.inl set, Or.inl ⟨rfl, rfl, fun _ set => set, fun _ => ⟨rfl, rfl⟩⟩⟩

theorem trans {k : Monitor} (first : Tells now m n) (second : Tells now n k) : Tells now m k := by
  refine ⟨second.config.trans first.config, ?_, ?_⟩
  · intro d set
    rcases second.origin d set with old | new
    · exact first.origin d old
    · exact Or.inr (first.config ▸ new)
  · rcases second.heard with quiet | ⟨longer, settled⟩
    · rcases first.heard with earlier | ⟨longer, settled⟩
      · exact Or.inl (earlier.trans quiet)
      · exact Or.inr ⟨quiet.notices ▸ longer, settled.quiet quiet⟩
    · refine Or.inr ⟨?_, settled⟩
      rcases first.heard with earlier | ⟨before, _⟩
      · exact earlier.notices ▸ longer
      · exact Nat.lt_trans before longer

end Tells

/-! ### Marks and notices -/

/-- All that notices and their alarm depend on. -/
def voice (m : Monitor) : Config × Catalog × Bool × Sweep × Option Nat × List Effect :=
  (m.config, m.catalog, m.hasTransport, m.sweep, m.alarms.progress, m.log)

theorem tells_of_same (same : n.voice = m.voice) : Tells now m n := by
  simp only [voice, Prod.mk.injEq] at same
  obtain ⟨config, catalog, transport, sweep, alarm, log⟩ := same
  refine ⟨config, fun d set => Or.inl (alarm ▸ set), Or.inl ⟨?_, transport, fun d set => alarm ▸ set, fun _ => ?_⟩⟩
  · rw [notices, log, ← notices]
  · simp only [progress, standings, transport, sweep, catalog, and_self]

/-- What is marked may change as it likes. -/
theorem tells_of_marked (config : n.config = m.config) (silent : n.notices = m.notices)
    (transport : n.hasTransport = m.hasTransport)
    (marked : n.alarms.progress =
      some (m.alarms.progress.getD (Millis.add now m.config.progressDelay.millis))) : Tells now m n := by
  refine ⟨config, ?_, Or.inl ⟨silent, transport, ?_, ?_⟩⟩
  · intro d set
    rw [marked] at set
    cases before : m.alarms.progress with
    | none => simpa [before, eq_comm] using set
    | some e => exact Or.inl (by simpa [before] using set)
  · intro d set
    rw [marked, set, Option.getD_some]
  · exact fun off => nomatch marked.symm.trans off

theorem Tells.after {k : Monitor} (later : Tells now k n) (same : k.voice = m.voice) : Tells now m n :=
  (tells_of_same same).trans later

theorem phase_eq_sweeping (m : Monitor) : m.phase = .sweeping ↔ m.hasTransport = true := by
  unfold phase
  cases m.hasTransport <;> cases m.isHeld <;> simp

theorem notices_of_announced {older : List Effect} (announced : n.log = .announced n.notice :: older) :
    n.notices = Effect.notices older ++ [n.notice] := by
  rw [notices, announced, Effect.notices_announced]

theorem settled_of_announced {older : List Effect} (announced : n.log = .announced n.notice :: older) : Settled n := by
  have last : n.lastNotice = n.notice := by simp [lastNotice, notices_of_announced announced]
  refine ⟨?_, ?_⟩
  · rw [last]
    exact phase_eq_sweeping n
  · intro _
    rw [last, notice]

theorem length_notices_lt {older : List Effect} (announced : n.log = .announced n.notice :: older)
    (grown : m.log <:+ older) : m.notices.length < n.notices.length := by
  rw [notices_of_announced announced, List.length_append]
  exact Nat.lt_succ_of_le (Effect.notices_prefix grown).length_le

/-- A notice of how things stand in the end settles everything before it. -/
theorem tells_of_announced {older : List Effect} (config : n.config = m.config)
    (announced : n.log = .announced n.notice :: older) (grown : m.log <:+ older)
    (origin : ∀ d, n.alarms.progress = some d → m.alarms.progress = some d) : Tells now m n :=
  ⟨config, fun d set => Or.inl (origin d set),
    Or.inr ⟨length_notices_lt announced grown, settled_of_announced announced⟩⟩

theorem clear_tells (m : Monitor) (now : Nat) : Tells now m m.clear :=
  tells_of_announced rfl rfl (List.suffix_refl _) fun _ set => set

/-! ### Ratings and cooldowns -/

theorem rerateCity_tells (m : Monitor) (now : Reading) (p : Position) : Tells now.millis m (m.rerateCity now p) := by
  rw [rerateCity, markChanged_eq]
  exact tells_of_marked rfl rfl rfl rfl

theorem rerateKey_tells (m : Monitor) (now : Reading) (key : String) : Tells now.millis m (m.rerateKey now key) := by
  unfold rerateKey
  split
  · exact rerateCity_tells m now _
  · exact .refl _ m

theorem rerateAll_tells (m : Monitor) (now : Reading) : Tells now.millis m (m.rerateAll now) := by
  rw [rerateAll, markChanged_eq]
  exact tells_of_marked rfl rfl rfl rfl

theorem recordLatency_tells (m : Monitor) (now : Reading) (key : String) (ms : Nat) :
    Tells now.millis m (m.recordLatency now key ms) :=
  (rerateKey_tells _ now key).after rfl

theorem setObserver_tells (m : Monitor) (now : Reading) (o : Observer) : Tells now.millis m (m.setObserver now o) :=
  (rerateAll_tells _ now).after rfl

theorem armCooldown_tells (m : Monitor) (now : Reading) : Tells now.millis m (m.armCooldown now) :=
  tells_of_same rfl

theorem setCooldown_tells (m : Monitor) (now : Reading) (key : String) (timeout : Int) :
    Tells now.millis m (m.setCooldown now key timeout) :=
  ((rerateKey_tells _ now key).trans (armCooldown_tells _ now)).after rfl

theorem setCityCooldown_tells (m : Monitor) (now : Reading) (country code : String) (timeout : Int) :
    Tells now.millis m (m.setCityCooldown now country code timeout).2 := by
  unfold setCityCooldown
  split
  · exact .refl _ m
  next p city _ =>
    have lifted : Tells now.millis m (m.liftCity now p city) :=
      (rerateCity_tells _ now p).after rfl
    have suppressed : Tells now.millis m (m.suppressCity now p city timeout) := by
      rw [suppressCity, markChanged_eq]
      exact tells_of_marked rfl rfl rfl rfl
    dsimp only
    split
    · exact lifted.trans (armCooldown_tells _ now)
    · exact suppressed.trans (armCooldown_tells _ now)

theorem clearExpiredCooldowns_tells (m : Monitor) (now : Reading) :
    Tells now.millis m (m.clearExpiredCooldowns now) := by
  have lifted := Tells.refl now.millis { m with cooldowns := m.cooldowns.dropExpired now.epoch }
  have rated := rerateKeys_keep (fun told => told.trans (rerateKey_tells _ now _)) (m.cooldowns.expired now.epoch) lifted
  exact (rated.trans (armCooldown_tells _ now)).after rfl

/-! ### Sweeps -/

theorem stop_tells (now : Reading) (config : n.config = m.config) (grown : m.log <:+ n.log) :
    Tells now.millis m (n.stop now) := by
  rw [stop_eq]
  exact tells_of_announced config rfl grown nofun

/-- A tick marks a change, and so tells of what an answer did to the table just before. -/
theorem tick_tells_of {now : Reading} (busy : m.hasTransport = true) (transport : n.hasTransport = true)
    (config : n.config = m.config) (log : n.log = m.log)
    (alarm : n.alarms.progress.getD (Millis.add now.millis m.config.progressDelay.millis) =
      m.alarms.progress.getD (Millis.add now.millis m.config.progressDelay.millis)) :
    Tells now.millis m (n.tick now) := by
  rcases tick_cases n now with ⟨idle, _⟩ | ⟨_, _, same⟩ | ⟨_, p, rest, _, same⟩
  · exact nomatch idle.symm.trans transport
  · rw [same]
    refine stop_tells now ?_ ?_
    · rw [advanced_eq]
      exact config
    · rw [advanced_eq, ← log]
      exact List.suffix_append _ _
  · rw [same, advanced_eq]
    refine tells_of_marked config ?_ (transport.trans busy.symm) ?_
    · simp only [notices, Effect.notices_sent, log]
    · simp only [config, alarm]

theorem tick_tells (m : Monitor) (now : Reading) : Tells now.millis m (m.tick now) := by
  cases transport : m.hasTransport with
  | false =>
    rw [tick, transport]
    exact .refl _ m
  | true => exact tick_tells_of transport transport rfl rfl rfl

theorem start_tells (m : Monitor) (s : Surroundings) : Tells s.now.millis m (m.start s) := by
  rcases start_cases m s with ⟨_, same⟩ | ⟨_, _, same⟩ | ⟨_, _, _, same⟩ | ⟨_, _, _, same | same⟩ <;> rw [same]
  · exact clear_tells m _
  · exact tells_of_same rfl
  · exact .refl _ m
  · have opened : Tells s.now.millis m m.prepared.opened.announce :=
      tells_of_announced rfl rfl (List.suffix_cons _ _) nofun
    exact opened.trans (tick_tells _ s.now)
  · exact stop_tells s.now rfl (List.suffix_refl _)

theorem refresh_tells (m : Monitor) (s : Surroundings) : Tells s.now.millis m (m.refresh s) := by
  rcases refresh_cases m s with ⟨_, same⟩ | ⟨_, same⟩ <;> rw [same]
  · exact .refl _ m
  · exact (clear_tells m _).trans (start_tells _ s)

theorem hearReply_tells (m : Monitor) (now : Reading) (k : UInt16) : Tells now.millis m (m.hearReply now k) := by
  rcases hearReply_cases m now k with ⟨_, same⟩ | ⟨busy, p, _, _, same⟩ <;> rw [same]
  · exact .refl _ m
  · have control := control_answered m now p
    refine tick_tells_of busy ?_ ?_ (log_answered m now p) ?_
    · exact (congrArg Control.hasTransport control).trans busy
    · exact congrArg Control.config control
    · unfold answered recordLatency rerateKey
      split
      · rw [rerateCity, markChanged_eq]
        rfl
      · rfl

theorem hear_tells (m : Monitor) (now : Reading) (event : TransportEvent) :
    Tells now.millis m (m.hear now event) :=
  hear_keeps (.refl _ m) (hearReply_tells m now) event

/-! ### Switch, tunnel and application -/

theorem setEnabled_tells (m : Monitor) (s : Surroundings) (enabled : Bool) :
    Tells s.now.millis m (m.setEnabled s enabled) := by
  rcases setEnabled_cases m s enabled with ⟨_, same⟩ | ⟨_, _, same⟩ | ⟨_, _, _, rfl, same⟩ <;> rw [same]
  · exact .refl _ m
  · exact (start_tells _ s).after rfl
  · exact tells_of_announced rfl rfl (List.suffix_cons _ _) nofun

theorem setTunnel_tells (m : Monitor) (s : Surroundings) (tunnel : Tunnel) :
    Tells s.now.millis m (m.setTunnel s tunnel) := by
  rcases setTunnel_cases m s tunnel with ⟨_, same⟩ | ⟨_, _, same⟩ | ⟨_, _, same⟩ <;> rw [same]
  · exact stop_tells s.now rfl (List.suffix_refl _)
  · exact (start_tells _ s).after rfl
  · exact tells_of_same rfl

theorem setApplication_tells (m : Monitor) (s : Surroundings) (application : Application) :
    Tells s.now.millis m (m.setApplication s application) := by
  rcases setApplication_cases m s application with
    ⟨_, _, same⟩ | ⟨_, _, same⟩ | ⟨_, _, _, same⟩ | ⟨_, _, same⟩ <;> rw [same]
  · exact stop_tells s.now rfl (List.suffix_refl _)
  · exact tells_of_same rfl
  · exact (refresh_tells _ s).after rfl
  · exact tells_of_same rfl

theorem activate_tells (m : Monitor) (now : Reading) : Tells now.millis m (m.activate now) := by
  unfold activate
  split
  · exact tells_of_same rfl
  · exact .refl _ m

/-! ### Alarms -/

def rested (m : Monitor) (now : Nat) : Monitor := { m with alarms := m.alarms.afterRinging now }

/-- The monitor after all alarms but the one for notices had their turns. -/
def cooled (m : Monitor) (s : Surroundings) : Monitor :=
  if Alarms.isDue m.alarms.cooldown s.now.millis then (m.sweepRung s).clearExpiredCooldowns s.now else m.sweepRung s

theorem ring_cooled (m : Monitor) (s : Surroundings) :
    m.ring s = if Alarms.isDue m.alarms.progress s.now.millis then (m.cooled s).announce else m.cooled s := rfl

theorem sweepRung_tells (m : Monitor) (s : Surroundings) :
    Tells s.now.millis (m.rested s.now.millis) (m.sweepRung s) := by
  have probed : Tells s.now.millis (m.rested s.now.millis) (m.probeRung s) := by
    unfold probeRung
    split
    · exact tick_tells _ s.now
    · exact .refl _ _
  unfold sweepRung
  split
  · exact probed.trans (start_tells _ s)
  · exact probed

theorem cooled_tells (m : Monitor) (s : Surroundings) : Tells s.now.millis (m.sweepRung s) (m.cooled s) := by
  unfold cooled
  split
  · exact clearExpiredCooldowns_tells _ s.now
  · exact .refl _ _

theorem cooled_log (m : Monitor) (s : Surroundings) : m.log <:+ (m.cooled s).log := by
  have swept := sweepRung_log m s
  unfold cooled
  split
  · rwa [log_clearExpiredCooldowns]
  · exact swept

/-- While the alarm for notices is not due, the others ring as if there were none. -/
theorem rested_tells {s : Surroundings} (early : Alarms.isDue m.alarms.progress s.now.millis = false) :
    Tells s.now.millis m (m.rested s.now.millis) := by
  refine tells_of_same ?_
  simp [voice, rested, Alarms.afterRinging, Alarms.rest, early]

theorem ring_origin {s : Surroundings} {d : Nat} (set : (m.ring s).alarms.progress = some d) :
    (m.alarms.progress = some d ∧ s.now.millis < d) ∨
      d = Millis.add s.now.millis m.config.progressDelay.millis := by
  have kept : (m.ring s).alarms.progress = (m.cooled s).alarms.progress := by
    rw [ring_cooled]
    split <;> rfl
  rw [kept] at set
  exact (((sweepRung_tells m s).trans (cooled_tells m s)).origin d set).imp_left Alarms.rest_eq_some.mp

theorem ring_config (m : Monitor) (s : Surroundings) : (m.ring s).config = m.config := by
  have same : (m.cooled s).config = m.config := ((sweepRung_tells m s).trans (cooled_tells m s)).config
  rw [ring_cooled]
  split
  · exact same
  · exact same

/-! ### Operations -/

theorem step_tells (s : Surroundings) {op : Operation} (other : op ≠ .ring)
    (untouched : ∀ countries, op ≠ .replaceCatalog countries) : Tells s.now.millis m (m.step s op) := by
  cases op with
  | activate => exact activate_tells m s.now
  | start => exact start_tells m s
  | stop => exact stop_tells s.now rfl (List.suffix_refl _)
  | refresh => exact refresh_tells m s
  | clear => exact clear_tells m _
  | shutdown => exact tells_of_announced rfl rfl (List.suffix_refl _) nofun
  | tick => exact tick_tells m s.now
  | ring => exact absurd rfl other
  | catalogChanged => exact start_tells m s
  | clearExpiredCooldowns => exact clearExpiredCooldowns_tells m s.now
  | hearReply k => exact hearReply_tells m s.now k
  | hear event => exact hear_tells m s.now event
  | setEnabled enabled => exact setEnabled_tells m s enabled
  | setObserver o => exact setObserver_tells m s.now o
  | setTunnel tunnel => exact setTunnel_tells m s tunnel
  | setApplication application => exact setApplication_tells m s application
  | recordLatency key ms => exact recordLatency_tells m s.now key ms
  | setCooldown key timeout => exact setCooldown_tells m s.now key timeout
  | setCityCooldown country code timeout => exact setCityCooldown_tells m s.now country code timeout
  | replaceCatalog countries => exact absurd rfl (untouched countries)

theorem ring_or_catalog (op : Operation) :
    op = .ring ∨ (∃ countries, op = .replaceCatalog countries) ∨
      (op ≠ .ring ∧ ∀ countries, op ≠ .replaceCatalog countries) := by
  cases op <;> simp

/-- The alarm for notices is only ever set to the delay from now. -/
theorem step_origin (m : Monitor) (s : Surroundings) (op : Operation) :
    (m.step s op).config = m.config ∧ ∀ d, (m.step s op).alarms.progress = some d →
      m.alarms.progress = some d ∨ d = Millis.add s.now.millis m.config.progressDelay.millis := by
  rcases ring_or_catalog op with rfl | ⟨countries, rfl⟩ | ⟨other, untouched⟩
  · exact ⟨ring_config m s, fun d set => (ring_origin set).imp_left And.left⟩
  · exact ⟨rfl, fun d set => Or.inl set⟩
  · have tells := step_tells (m := m) s other untouched
    exact ⟨tells.config, tells.origin⟩

theorem run_config (m : Monitor) (operations : List (Surroundings × Operation)) :
    (m.run operations).config = m.config :=
  run_keeps (I := fun n => n.config = m.config) (fun _ same => (step_origin _ _ _).1.trans same) rfl
    fun _ _ => trivial

theorem Tells.alarm (tells : Tells now m n) (silent : n.notices = m.notices) {d : Nat}
    (set : m.alarms.progress = some d) : n.alarms.progress = some d := by
  rcases tells.heard with quiet | ⟨longer, _⟩
  · exact quiet.alarm d set
  · exact absurd (congrArg List.length silent) (Nat.ne_of_gt longer)

/-- Only a notice turns the alarm for notices off. -/
theorem step_alarm (s : Surroundings) (op : Operation) (silent : (m.step s op).notices = m.notices) {d : Nat}
    (set : m.alarms.progress = some d) : (m.step s op).alarms.progress = some d := by
  rcases ring_or_catalog op with rfl | ⟨countries, rfl⟩ | ⟨other, untouched⟩
  · rw [step, ring_cooled] at silent ⊢
    split at silent
    next =>
      have longer : m.notices.length < (m.cooled s).announce.notices.length :=
        length_notices_lt rfl (cooled_log m s)
      exact absurd (congrArg List.length silent) (Nat.ne_of_gt longer)
    next early =>
      have rested := rested_tells (Bool.eq_false_iff.mpr early)
      rw [if_neg early]
      exact ((rested.trans (sweepRung_tells m s)).trans (cooled_tells m s)).alarm silent set
  · exact set
  · exact (step_tells s other untouched).alarm silent set

end Monitor

end RelayQuality
