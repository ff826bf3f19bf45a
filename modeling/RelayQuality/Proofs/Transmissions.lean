import RelayQuality.Proofs.Numbering

/-!
# Transmissions of a run

`Numbered` says of all sweeps of a run what `Sweep.Ledger` says of one: no sweep uses a number twice, and each
number in flight stands for the latest transmission of its probe. A number that is spent stays so
through every operation.
-/

namespace RelayQuality

namespace Effect

/-- The transmissions of one sweep in a log, latest first, each with its time. -/
def sentIn (log : List Effect) (g : Nat) : List (Dispatch × Nat) :=
  log.filterMap fun
    | .sent generation dispatch time => if generation = g then some (dispatch, time) else none
    | _ => none

theorem mem_sentIn {log : List Effect} {g t : Nat} {d : Dispatch} : (d, t) ∈ sentIn log g ↔ .sent g d t ∈ log := by
  simp only [sentIn, List.mem_filterMap]
  constructor
  · rintro ⟨effect, member, kept⟩
    cases effect with
    | sent generation dispatch time =>
      obtain ⟨rfl, pair⟩ := Option.ite_none_right_eq_some.mp kept
      obtain ⟨rfl, rfl⟩ := Prod.mk.inj (Option.some.inj pair)
      exact member
    | _ => cases kept
  · intro member
    exact ⟨_, member, if_pos rfl⟩

theorem sentIn_traffic (log : List Effect) (g : Nat) : sentIn (log.filter isTraffic) g = sentIn log g := by
  rw [sentIn, sentIn, List.filterMap_filter]
  congr 1
  funext effect
  cases effect <;> rfl

theorem sentIn_transmit (log : List Effect) (dispatches : List Dispatch) (now generation g : Nat) :
    sentIn ((dispatches.map fun d => .sent generation d now).reverse ++ log) g =
      if generation = g then dispatches.reverse.map (·, now) ++ sentIn log g else sentIn log g := by
  rw [sentIn, List.filterMap_append, ← List.map_reverse, List.filterMap_map]
  split
  next same => simp [same, sentIn]
  next other => simp [other, sentIn]

end Effect

namespace Catalog

def relays (c : Catalog) : List Relay := c.cities.flatMap City.relays

end Catalog

namespace Monitor

/-- What is known of all transmissions of a run and of the sweep that is running. -/
structure Numbered (pace : Pace) (loaded : Nat → Relay → Prop) (spent : Nat → UInt16 → Prop) (time : Nat)
    (m : Monitor) : Prop where
  paced : m.sweep.pace = pace
  begun : ∀ {g e}, e ∈ Effect.sentIn m.log g → g ≤ m.generation
  once : ∀ g, ((Effect.sentIn m.log g).map (·.1.sequence)).Nodup
  past : ∀ {g k}, spent g k → g ≤ m.generation
  running : m.hasTransport = true →
    m.sweep.Accounts (loaded m.generation) (spent m.generation) time (Effect.sentIn m.log m.generation)

variable {pace : Pace} {loaded : Nat → Relay → Prop} {spent : Nat → UInt16 → Prop} {time : Nat} {m n : Monitor}

theorem Numbered.of_same (numbered : Numbered pace loaded spent time m) (generation : n.generation = m.generation)
    (transport : n.hasTransport = m.hasTransport) (sweep : n.sweep = m.sweep)
    (sent : ∀ g, Effect.sentIn n.log g = Effect.sentIn m.log g) : Numbered pace loaded spent time n := by
  obtain ⟨paced, begun, once, past, running⟩ := numbered
  refine ⟨?_, ?_, ?_, ?_, ?_⟩
  · rw [sweep]
    exact paced
  · intro g e member
    rw [sent] at member
    exact generation ▸ begun member
  · intro g
    rw [sent]
    exact once g
  · intro g k closed
    exact generation ▸ past closed
  · rw [transport, generation, sweep, sent]
    exact running

theorem Numbered.of_control (numbered : Numbered pace loaded spent time m) (same : n.control = m.control) :
    Numbered pace loaded spent time n := by
  refine numbered.of_same (congrArg Control.generation same) (congrArg Control.hasTransport same)
    (congrArg Control.sweep same) ?_
  intro g
  have traffic : n.log.filter Effect.isTraffic = m.log.filter Effect.isTraffic := congrArg Control.traffic same
  rw [← Effect.sentIn_traffic, traffic, Effect.sentIn_traffic]

theorem Numbered.later {now : Nat} (numbered : Numbered pace loaded spent time m) (order : time ≤ now) :
    Numbered pace loaded spent now m :=
  { numbered with running := fun transport => (numbered.running transport).later order }

theorem ofConfig_numbered (config : Config) (catalog : Catalog) (loaded : Nat → Relay → Prop) (time : Nat) :
    Numbered (.ofLimits config.probeTimeout config.maxParallel config.maxRetries) loaded (fun _ _ => False) time
      (ofConfig config catalog) :=
  ⟨rfl, nofun, fun _ => List.nodup_nil, nofun, nofun⟩

/-! ### The course of a sweep -/

theorem halt_numbered (numbered : Numbered pace loaded spent time m) : Numbered pace loaded spent time m.halt :=
  ⟨numbered.paced, numbered.begun, numbered.once, numbered.past, nofun⟩

theorem stop_numbered (now : Reading) (numbered : Numbered pace loaded spent time m) :
    Numbered pace loaded spent time (m.stop now) := by
  rw [stop_eq]
  exact (halt_numbered numbered).of_same rfl rfl rfl fun _ => rfl

/-- A tick may spend numbers. -/
theorem tick_spends {more : Nat → UInt16 → Prop} (now : Reading)
    (numbered : Numbered pace loaded spent now.millis m) (past : ∀ {g k}, more g k → g ≤ m.generation)
    (accounts : m.hasTransport = true →
      (m.sweep.advanced now.millis).Accounts (loaded m.generation) (more m.generation) now.millis
        ((m.sweep.sends now.millis).reverse.map (·, now.millis) ++ Effect.sentIn m.log m.generation)) :
    Numbered pace loaded more now.millis (m.tick now) := by
  have advanced : m.hasTransport = true → Numbered pace loaded more now.millis (m.advanced now.millis) := by
    intro transport
    have ledger := accounts transport
    have sent : ∀ g, Effect.sentIn (m.advanced now.millis).log g =
        if m.generation = g then
          (m.sweep.sends now.millis).reverse.map (·, now.millis) ++ Effect.sentIn m.log g
        else Effect.sentIn m.log g := by
      intro g
      rw [advanced_eq]
      exact Effect.sentIn_transmit _ _ _ _ _
    have same : (m.advanced now.millis).sweep = m.sweep.advanced now.millis ∧
        (m.advanced now.millis).generation = m.generation := by
      rw [advanced_eq]
      exact ⟨rfl, rfl⟩
    refine ⟨?_, ?_, ?_, ?_, ?_⟩
    · rw [same.1]
      exact numbered.paced
    · intro g e member
      rw [same.2]
      rw [sent] at member
      split at member
      next here => exact Nat.le_of_eq here.symm
      next => exact numbered.begun member
    · intro g
      rw [sent]
      split
      next here => exact here ▸ ledger.once
      next => exact numbered.once g
    · rw [same.2]
      exact past
    · intro _
      rw [same.1, same.2, sent, if_pos rfl]
      exact ledger
  rcases tick_cases m now with ⟨transport, same⟩ | ⟨transport, _, same⟩ | ⟨transport, p, rest, _, same⟩ <;> rw [same]
  · refine ⟨numbered.paced, numbered.begun, numbered.once, past, ?_⟩
    intro opened
    exact nomatch transport.symm.trans opened
  · exact stop_numbered now (advanced transport)
  · exact (advanced transport).of_same rfl rfl rfl fun _ => rfl

theorem tick_numbered (now : Reading) (numbered : Numbered pace loaded spent now.millis m) :
    Numbered pace loaded spent now.millis (m.tick now) :=
  tick_spends now numbered numbered.past fun transport => Sweep.advanced_accounts (numbered.running transport)

/-- The relays that the next sweep would load are known, and the numbers suffice for them. -/
def Ready (pace : Pace) (loaded : Nat → Relay → Prop) (m : Monitor) : Prop :=
  (∀ relay ∈ m.catalog.relays, loaded (m.generation + 1) relay) ∧
    m.catalog.relays.length * (pace.retries + 1) ≤ 65536

theorem mem_roster {p : Probe} (listed : p ∈ m.roster) : ⟨p.key, p.target⟩ ∈ m.catalog.relays := by
  obtain ⟨city, member, probe⟩ := List.mem_flatMap.mp listed
  obtain ⟨relay, here, rfl⟩ := List.mem_map.mp probe
  exact List.mem_flatMap.mpr ⟨city, member, here⟩

theorem length_roster (m : Monitor) : m.roster.length = m.catalog.relays.length := by
  simp [roster, Catalog.relays, List.length_flatMap, probesOf]

theorem prepared_numbered (ready : Ready pace loaded m) (numbered : Numbered pace loaded spent time m) :
    Numbered pace loaded spent time m.prepared.opened.announce := by
  refine ⟨numbered.paced, ?_, numbered.once, ?_, ?_⟩
  · intro g e member
    exact Nat.le_succ_of_le (numbered.begun member)
  · intro g k closed
    exact Nat.le_succ_of_le (numbered.past closed)
  · intro _
    -- all that was sent names an older sweep, so the numbers of the new one start unused
    have unsent : Effect.sentIn m.log (m.generation + 1) = [] := by
      refine List.eq_nil_iff_forall_not_mem.mpr ?_
      intro e member
      exact Nat.not_succ_le_self _ (numbered.begun member)
    have sent : Effect.sentIn m.prepared.opened.announce.log m.prepared.opened.announce.generation = [] := unsent
    have room : m.roster.length * (m.sweep.pace.retries + 1) ≤ 65536 := by
      rw [length_roster, numbered.paced]
      exact ready.2
    have fresh : (m.sweep.load m.roster).Accounts (loaded (m.generation + 1)) (fun _ => False) time [] :=
      Sweep.load_accounts (fun p listed => ready.1 _ (mem_roster listed)) room
    rw [sent]
    refine Sweep.Ledger.forget fresh ?_
    intro k closed
    exact Nat.not_succ_le_self _ (numbered.past closed)

theorem start_numbered (s : Surroundings) (begins : m.generation < (m.start s).generation → Ready pace loaded m)
    (numbered : Numbered pace loaded spent s.now.millis m) : Numbered pace loaded spent s.now.millis (m.start s) := by
  rcases start_cases m s with ⟨_, same⟩ | ⟨_, _, same⟩ | ⟨_, _, _, same⟩ | ⟨on, free, idle, same⟩
  · rw [same]
    exact numbered.of_control (control_clear m)
  · rw [same]
    exact numbered.of_same rfl rfl rfl fun _ => rfl
  · rw [same]
    exact numbered
  · rcases same with same | same <;> rw [same] at begins ⊢
    · obtain ⟨_, _, _, _, _, _, ticked⟩ := tick_shape m.prepared.opened.announce s.now
      have ready : Ready pace loaded m := begins (by rw [ticked]; exact Nat.lt_succ_self _)
      exact tick_numbered s.now (prepared_numbered ready numbered)
    · refine stop_numbered s.now ⟨numbered.paced, ?_, numbered.once, ?_, ?_⟩
      · intro g e member
        exact Nat.le_succ_of_le (numbered.begun member)
      · intro g k closed
        exact Nat.le_succ_of_le (numbered.past closed)
      · intro transport
        exact nomatch idle.symm.trans transport

theorem refresh_numbered (s : Surroundings) (begins : m.generation < (m.refresh s).generation → Ready pace loaded m)
    (numbered : Numbered pace loaded spent s.now.millis m) :
    Numbered pace loaded spent s.now.millis (m.refresh s) := by
  rcases refresh_cases m s with ⟨_, same⟩ | ⟨_, same⟩ <;> rw [same] at begins ⊢
  · exact numbered
  · exact start_numbered s begins (numbered.of_control (control_clear m))

/-! ### Answers and alarms -/

/-- An answer spends its number. -/
theorem answered_numbered (now : Reading) {p : Probe} (transport : m.hasTransport = true) (flies : p ∈ m.sweep.flying)
    (numbered : Numbered pace loaded spent now.millis m) :
    Numbered pace loaded (fun g k => spent g k ∨ g = m.generation ∧ k = p.sequence) now.millis (m.answered now p) := by
  have taken : Numbered pace loaded (fun g k => spent g k ∨ g = m.generation ∧ k = p.sequence) now.millis
      { m with sweep := m.sweep.answered p.sequence } := by
    refine ⟨numbered.paced, numbered.begun, numbered.once, ?_, ?_⟩
    · rintro g k (closed | ⟨rfl, rfl⟩)
      · exact numbered.past closed
      · exact Nat.le_refl _
    · intro _
      refine (Sweep.answered_accounts (numbered.running transport) flies).forget ?_
      exact fun k => Or.imp_right And.right
  exact taken.of_control (control_answered m now p)

theorem Numbered.forget {more : Nat → UInt16 → Prop} (numbered : Numbered pace loaded more time m)
    (fewer : ∀ g k, spent g k → more g k) : Numbered pace loaded spent time m :=
  { numbered with
    past := fun closed => numbered.past (fewer _ _ closed)
    running := fun transport => (numbered.running transport).forget (fewer m.generation) }

theorem hearReply_numbered (now : Reading) (k : UInt16) (numbered : Numbered pace loaded spent now.millis m) :
    Numbered pace loaded spent now.millis (m.hearReply now k) := by
  rcases hearReply_cases m now k with ⟨_, same⟩ | ⟨transport, p, flies, _, same⟩ <;> rw [same]
  · exact numbered
  · exact tick_numbered now ((answered_numbered now transport flies numbered).forget fun _ _ => Or.inl)

theorem hear_numbered (now : Reading) (event : TransportEvent) (numbered : Numbered pace loaded spent now.millis m) :
    Numbered pace loaded spent now.millis (m.hear now event) :=
  hear_keeps numbered (fun k => hearReply_numbered now k numbered) event

theorem Ready.of_same (ready : Ready pace loaded m) (generation : n.generation = m.generation)
    (catalog : n.catalog = m.catalog) : Ready pace loaded n := by
  unfold Ready at ready ⊢
  rwa [generation, catalog]

theorem probeRung_generation (m : Monitor) (s : Surroundings) : (m.probeRung s).generation = m.generation := by
  unfold probeRung
  split
  · obtain ⟨_, _, _, _, _, _, ticked⟩ := tick_shape { m with alarms := m.alarms.afterRinging s.now.millis } s.now
    rw [ticked]
  · rfl

theorem probeRung_numbered (s : Surroundings) (numbered : Numbered pace loaded spent s.now.millis m) :
    Numbered pace loaded spent s.now.millis (m.probeRung s) := by
  have rested : Numbered pace loaded spent s.now.millis { m with alarms := m.alarms.afterRinging s.now.millis } :=
    numbered.of_same rfl rfl rfl fun _ => rfl
  unfold probeRung
  split
  · exact tick_numbered s.now rested
  · exact rested

theorem ring_numbered (s : Surroundings) (begins : m.generation < (m.ring s).generation → Ready pace loaded m)
    (numbered : Numbered pace loaded spent s.now.millis m) : Numbered pace loaded spent s.now.millis (m.ring s) := by
  have generation : (m.ring s).generation = (m.sweepRung s).generation :=
    congrArg Control.generation (control_ring m s)
  rw [generation] at begins
  refine Numbered.of_control ?_ (control_ring m s)
  unfold sweepRung at begins ⊢
  split at begins
  next due =>
    have same := probeRung_generation m s
    have catalog : (m.probeRung s).catalog = m.catalog := congrArg Frame.catalog (frame_probeRung m s)
    rw [← same] at begins
    rw [if_pos due]
    exact start_numbered s (fun begun => (begins begun).of_same same catalog) (probeRung_numbered s numbered)
  next early =>
    rw [if_neg early]
    exact probeRung_numbered s numbered

/-! ### Tunnel, application and switch -/

theorem setEnabled_numbered (s : Surroundings) (enabled : Bool)
    (begins : m.generation < (m.setEnabled s enabled).generation → Ready pace loaded m)
    (numbered : Numbered pace loaded spent s.now.millis m) :
    Numbered pace loaded spent s.now.millis (m.setEnabled s enabled) := by
  rcases setEnabled_cases m s enabled with ⟨_, same⟩ | ⟨_, _, same⟩ | ⟨_, _, _, rfl, same⟩ <;> rw [same] at begins ⊢
  · exact numbered
  · exact start_numbered s begins (numbered.of_same rfl rfl rfl fun _ => rfl)
  · exact (halt_numbered numbered).of_same rfl rfl rfl fun _ => rfl

theorem setTunnel_numbered (s : Surroundings) (tunnel : Tunnel)
    (begins : m.generation < (m.setTunnel s tunnel).generation → Ready pace loaded m)
    (numbered : Numbered pace loaded spent s.now.millis m) :
    Numbered pace loaded spent s.now.millis (m.setTunnel s tunnel) := by
  rcases setTunnel_cases m s tunnel with ⟨_, same⟩ | ⟨_, _, same⟩ | ⟨_, _, same⟩ <;> rw [same] at begins ⊢
  · exact stop_numbered s.now (numbered.of_same rfl rfl rfl fun _ => rfl)
  · exact start_numbered s begins (numbered.of_same rfl rfl rfl fun _ => rfl)
  · exact numbered.of_same rfl rfl rfl fun _ => rfl

theorem setApplication_numbered (s : Surroundings) (application : Application)
    (begins : m.generation < (m.setApplication s application).generation → Ready pace loaded m)
    (numbered : Numbered pace loaded spent s.now.millis m) :
    Numbered pace loaded spent s.now.millis (m.setApplication s application) := by
  rcases setApplication_cases m s application with
    ⟨_, _, same⟩ | ⟨_, _, same⟩ | ⟨_, _, _, same⟩ | ⟨_, _, same⟩ <;> rw [same] at begins ⊢
  · exact stop_numbered s.now (numbered.of_same rfl rfl rfl fun _ => rfl)
  · exact numbered.of_same rfl rfl rfl fun _ => rfl
  · exact refresh_numbered s begins (numbered.of_same rfl rfl rfl fun _ => rfl)
  · exact numbered.of_same rfl rfl rfl fun _ => rfl

theorem activate_numbered (now : Reading) (numbered : Numbered pace loaded spent time m) :
    Numbered pace loaded spent time (m.activate now) := by
  unfold activate
  split
  · exact numbered.of_same rfl rfl rfl fun _ => rfl
  · exact numbered

theorem step_numbered {s : Surroundings} {op : Operation}
    (begins : m.generation < (m.step s op).generation → Ready pace loaded m)
    (numbered : Numbered pace loaded spent s.now.millis m) :
    Numbered pace loaded spent s.now.millis (m.step s op) := by
  cases op with
  | activate => exact activate_numbered s.now numbered
  | start => exact start_numbered s begins numbered
  | stop => exact stop_numbered s.now numbered
  | refresh => exact refresh_numbered s begins numbered
  | clear => exact numbered.of_control (control_clear m)
  | shutdown => exact (halt_numbered numbered).of_same rfl rfl rfl fun _ => rfl
  | tick => exact tick_numbered s.now numbered
  | ring => exact ring_numbered s begins numbered
  | catalogChanged => exact start_numbered s begins numbered
  | clearExpiredCooldowns => exact numbered.of_control (control_clearExpiredCooldowns m s.now)
  | hearReply k => exact hearReply_numbered s.now k numbered
  | hear event => exact hear_numbered s.now event numbered
  | setEnabled enabled => exact setEnabled_numbered s enabled begins numbered
  | setObserver o => exact numbered.of_control (control_setObserver m s.now o)
  | setTunnel tunnel => exact setTunnel_numbered s tunnel begins numbered
  | setApplication application => exact setApplication_numbered s application begins numbered
  | recordLatency key ms => exact numbered.of_control (control_recordLatency m s.now key ms)
  | setCooldown key timeout => exact numbered.of_control (control_setCooldown m s.now key timeout)
  | setCityCooldown country code timeout =>
    exact numbered.of_control (control_setCityCooldown m s.now country code timeout)
  | replaceCatalog countries => exact numbered.of_control (control_replaceCatalog m countries)

end Monitor

end RelayQuality
