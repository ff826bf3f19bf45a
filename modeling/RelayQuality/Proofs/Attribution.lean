import RelayQuality.Proofs.Run
import RelayQuality.Proofs.Sampling
import RelayQuality.Proofs.Transmissions

/-!
# Answers belong to their transmissions

An answer names a sweep and a number, and may come late, twice or out of order. What it finds is the latest
transmission of a probe in flight or nothing. A number that was answered, sent again, given up or
left behind by its sweep is `Deaf` from then on.
-/

namespace RelayQuality

namespace Monitor

/-! ### Runs -/

/-- The operation that began a sweep found a relay in the catalog. -/
def Loaded : Monitor → List (Surroundings × Operation) → Nat → Relay → Prop
  | _, [], _, _ => False
  | m, (s, op) :: rest, g, relay =>
    m.generation < g ∧ g ≤ (m.step s op).generation ∧ relay ∈ m.catalog.relays ∨ Loaded (m.step s op) rest g relay

/-- Each sweep that begins has numbers for every transmission that its relays can need. -/
def NumbersSuffice (retries : Nat) : Monitor → List (Surroundings × Operation) → Prop
  | _, [] => True
  | m, (s, op) :: rest =>
    (m.generation < (m.step s op).generation → m.catalog.relays.length * (retries + 1) ≤ 65536) ∧
      NumbersSuffice retries (m.step s op) rest

/-- A run between two moments, on a clock that does not go back, whose sweeps have numbers enough. -/
structure Orderly (retries first last : Nat) (m : Monitor) (operations : List (Surroundings × Operation)) : Prop where
  forward : Forward Reading.millis operations
  order : first ≤ last
  within : ∀ entry ∈ operations, first ≤ entry.1.now.millis ∧ entry.1.now.millis ≤ last
  enough : NumbersSuffice retries m operations

variable {pace : Pace} {loaded : Nat → Relay → Prop} {spent : Nat → UInt16 → Prop} {time last : Nat} {m : Monitor}

theorem run_numbered {operations : List (Surroundings × Operation)}
    (orderly : Orderly pace.retries time last m operations)
    (known : ∀ g relay, Loaded m operations g relay → loaded g relay)
    (numbered : Numbered pace loaded spent time m) : Numbered pace loaded spent last (m.run operations) := by
  induction operations generalizing m time with
  | nil => exact numbered.later orderly.order
  | cons entry rest ih =>
    obtain ⟨s, op⟩ := entry
    obtain ⟨⟨past, upto⟩, others⟩ := List.forall_mem_cons.mp orderly.within
    obtain ⟨after, forward⟩ := List.pairwise_cons.mp orderly.forward
    obtain ⟨room, enough⟩ := orderly.enough
    have begins : m.generation < (m.step s op).generation → Ready pace loaded m := by
      intro begun
      refine ⟨?_, room begun⟩
      intro relay listed
      exact known _ _ (Or.inl ⟨Nat.lt_succ_self _, begun, listed⟩)
    -- the invariant moves on to the moment of the first operation, which no later one precedes
    rw [run_cons]
    refine ih ⟨forward, upto, ?_, enough⟩ ?_ (step_numbered begins (numbered.later past))
    · intro entry member
      exact ⟨after entry member, (others entry member).2⟩
    · intro g relay later
      exact known g relay (Or.inr later)

/-! ### Spent numbers -/

/-- A transmission is the latest of a probe in flight, in the sweep that is running. -/
def Awaits (m : Monitor) (g : Nat) (d : Dispatch) (sentAt : Nat) : Prop :=
  m.hasTransport = true ∧ m.generation = g ∧ ∃ p ∈ m.sweep.flying, p.dispatch = d ∧ p.sentAt = sentAt

/-- From a moment on no answer to a number of a sweep changes anything. -/
def Deaf (retries time : Nat) (m : Monitor) (g : Nat) (k : UInt16) : Prop :=
  ∀ operations s, Orderly retries time s.now.millis m operations →
    (m.run operations).step s (.hear ⟨g, .reply k⟩) = m.run operations

theorem hear_cases (m : Monitor) (now : Reading) (g : Nat) (k : UInt16) :
    ((m.hasTransport = true → m.generation = g → ∀ p ∈ m.sweep.flying, p.sequence ≠ k) ∧
      m.hear now ⟨g, .reply k⟩ = m) ∨
    (m.hasTransport = true ∧ m.generation = g ∧ ∃ p ∈ m.sweep.flying, p.sequence = k ∧
      m.hear now ⟨g, .reply k⟩ = (m.answered now p).tick now) := by
  rw [hear_reply]
  by_cases same : g = m.generation
  · rw [if_pos same]
    rcases hearReply_cases m now k with ⟨missing, kept⟩ | ⟨transport, answer⟩
    · exact Or.inl ⟨fun transport _ => missing transport, kept⟩
    · exact Or.inr ⟨transport, same.symm, answer⟩
  · rw [if_neg same]
    exact Or.inl ⟨fun _ here => absurd here.symm same, rfl⟩

theorem Numbered.unheard (numbered : Numbered pace loaded spent time m) {g : Nat} {k : UInt16} (closed : spent g k)
    (now : Reading) : m.hear now ⟨g, .reply k⟩ = m := by
  rcases hear_cases m now g k with ⟨_, kept⟩ | ⟨transport, rfl, p, flies, same, _⟩
  · exact kept
  · exact absurd same (((numbered.running transport).closed k closed).2 p flies)

theorem Numbered.deaf (numbered : Numbered pace loaded spent time m) {g : Nat} {k : UInt16} (closed : spent g k) :
    Deaf pace.retries time m g k := by
  intro operations s orderly
  have anonymous : Numbered pace (fun _ _ => True) spent time m :=
    { numbered with running := fun transport => { numbered.running transport with known := fun _ _ => trivial } }
  exact (run_numbered orderly (fun _ _ _ => trivial) anonymous).unheard closed s.now

/-- A number in flight stands for one transmission. -/
theorem Numbered.transmission (numbered : Numbered pace loaded spent time m) (transport : m.hasTransport = true)
    {p : Probe} (flies : p ∈ m.sweep.flying) {e : Dispatch × Nat} (made : e ∈ Effect.sentIn m.log m.generation)
    (same : p.sequence = e.1.sequence) : p.dispatch = e.1 ∧ p.sentAt = e.2 := by
  have ledger := numbered.running transport
  exact Prod.mk.inj (ledger.same_transmission (ledger.flights p flies) made same)

/-- A number that was used and is in flight no more is spent. -/
theorem Numbered.spend (numbered : Numbered pace loaded spent time m) {g : Nat} {e : Dispatch × Nat}
    (made : e ∈ Effect.sentIn m.log g)
    (missing : m.hasTransport = true → m.generation = g → ∀ p ∈ m.sweep.flying, p.sequence ≠ e.1.sequence) :
    Numbered pace loaded (fun h k => h = g ∧ k = e.1.sequence) time m := by
  refine ⟨numbered.paced, numbered.begun, numbered.once, ?_, ?_⟩
  · rintro h k ⟨rfl, _⟩
    exact numbered.begun made
  · intro transport
    have ledger := numbered.running transport
    refine { ledger with closed := ?_ }
    rintro k ⟨rfl, rfl⟩
    exact ⟨ledger.below e made, missing transport rfl⟩

/-- A transmission whose time is up is spent by a tick, whether its probe is sent again or given up. -/
theorem tick_spends_late {now : Reading} (numbered : Numbered pace loaded spent now.millis m) {g : Nat}
    {e : Dispatch × Nat} (made : e ∈ Effect.sentIn m.log g) (late : Millis.add e.2 pace.timeout ≤ now.millis) :
    Numbered pace loaded (fun h k => h = g ∧ k = e.1.sequence) now.millis (m.tick now) := by
  refine tick_spends now numbered ?_ ?_
  · rintro h k ⟨rfl, _⟩
    exact numbered.begun made
  · intro transport
    have accounts := numbered.running transport
    by_cases same : m.generation = g
    · subst same
      rw [← numbered.paced] at late
      exact (Sweep.advanced_closes accounts made late).forget fun k closed => Or.inr closed.2
    · exact (Sweep.advanced_accounts accounts).forget fun k closed => absurd closed.1 same

/-! ### Samples -/

/-- An answer changes one sample. -/
theorem answered_samples (m : Monitor) (now : Reading) (p : Probe) (key : String) :
    ((m.answered now p).tick now).samples.get? key =
      if key = p.key then some (now.millis - p.sentAt) else m.samples.get? key := by
  rw [tick_samples, answered, recordLatency, rerateKey_samples]
  exact Samples.get?_record _ _ _ _

/-- An answer to a transmission that is awaited changes one sample, to the time since exactly that transmission; no
other answer to it, before or after, changes anything. -/
theorem answers_are_attributed (config : Config) (catalog : Catalog) {operations : List (Surroundings × Operation)}
    {s : Surroundings} (orderly : Orderly config.maxRetries 0 s.now.millis (ofConfig config catalog) operations)
    {g sentAt : Nat} {address : Address} {k : UInt16}
    (made : .sent g ⟨address, k⟩ sentAt ∈ ((ofConfig config catalog).run operations).log) :
    let m := (ofConfig config catalog).run operations
    let heard := m.step s (.hear ⟨g, .reply k⟩)
    (¬ m.Awaits g ⟨address, k⟩ sentAt ∧ heard = m ∨
      m.Awaits g ⟨address, k⟩ sentAt ∧ sentAt ≤ s.now.millis ∧
        ∃ key, Loaded (ofConfig config catalog) operations g ⟨key, address⟩ ∧
          ∀ other, heard.samples.get? other =
            if other = key then some (s.now.millis - sentAt) else m.samples.get? other) ∧
    ((Effect.sentIn m.log g).map (·.1.sequence)).Nodup ∧
    Deaf config.maxRetries s.now.millis heard g k ∧
    (Millis.add sentAt config.probeTimeout.millis ≤ s.now.millis →
      Deaf config.maxRetries s.now.millis (m.step s .tick) g k) ∧
    (¬ m.Awaits g ⟨address, k⟩ sentAt → Deaf config.maxRetries s.now.millis m g k) := by
  intro m heard
  have numbered : Numbered (.ofLimits config.probeTimeout config.maxParallel config.maxRetries)
      (Loaded (ofConfig config catalog) operations) (fun _ _ => False) s.now.millis m :=
    run_numbered orderly (fun _ _ => id) (ofConfig_numbered config catalog _ 0)
  have listed : (⟨address, k⟩, sentAt) ∈ Effect.sentIn m.log g := Effect.mem_sentIn.mpr made
  refine ⟨?_, numbered.once g, ?_, ?_, ?_⟩
  · rcases hear_cases m s.now g k with ⟨missing, kept⟩ | ⟨transport, rfl, p, flies, same, hears⟩
    · refine Or.inl ⟨?_, kept⟩
      rintro ⟨transport, here, p, flies, dispatch, _⟩
      exact missing transport here p flies (congrArg Dispatch.sequence dispatch)
    · obtain ⟨dispatch, rfl⟩ := numbered.transmission transport flies listed same
      obtain ⟨rfl, _⟩ := Dispatch.mk.inj dispatch
      have ledger := numbered.running transport
      refine Or.inr ⟨⟨transport, rfl, p, flies, dispatch, rfl⟩, ledger.dated _ (ledger.flights p flies), p.key,
        ledger.known p (List.mem_append_right _ flies), ?_⟩
      intro other
      rw [show heard = _ from hears]
      exact answered_samples m s.now p other
  · rcases hear_cases m s.now g k with ⟨missing, kept⟩ | ⟨transport, rfl, p, flies, rfl, hears⟩
    · rw [show heard = m from kept]
      exact (numbered.spend listed missing).deaf ⟨rfl, rfl⟩
    · rw [show heard = _ from hears]
      exact (tick_numbered s.now (answered_numbered s.now transport flies numbered)).deaf (Or.inr ⟨rfl, rfl⟩)
  · intro late
    exact (tick_spends_late numbered listed late).deaf ⟨rfl, rfl⟩
  · intro unawaited
    refine (numbered.spend listed ?_).deaf ⟨rfl, rfl⟩
    rintro transport rfl p flies same
    obtain ⟨dispatch, time⟩ := numbered.transmission transport flies listed same
    exact unawaited ⟨transport, rfl, p, flies, dispatch, time⟩

def loneRelay : Catalog :=
  ⟨[⟨"se", "Sweden", [{ code := "got", name := "Gothenburg", country := "se", place := default
                        relays := [⟨"a", .ofOctets 10 0 0 1⟩] }]⟩]⟩

/-- A sweep over that relay begins. -/
def loneStart : List (Surroundings × Operation) := [(⟨⟨0, 0⟩, true⟩, .start)]

theorem loneStart_sweeps :
    let m := (ofConfig {} loneRelay).run loneStart
    m.hasTransport = true ∧ m.generation = 1 ∧ m.sweep.queue = [] ∧
    m.sweep.flying =
      [{ key := "a", country := "se", city := "Gothenburg", target := .ofOctets 10 0 0 1, distance := .ofFloat 0.0 }] ∧
    .sent 1 ⟨.ofOctets 10 0 0 1, 0⟩ 0 ∈ m.log := by
  intro m
  let probe : Probe :=
    { key := "a", country := "se", city := "Gothenburg", target := .ofOctets 10 0 0 1, distance := .ofFloat 0.0 }
  have loaded : (ofConfig {} loneRelay).sweep.load (ofConfig {} loneRelay).roster =
      { pace := (ofConfig {} loneRelay).sweep.pace, queue := [probe], total := 1 } := by
    rw [show (ofConfig {} loneRelay).roster = [probe] from rfl]
    exact Sweep.load_of_ordered _ (List.pairwise_singleton _ _)
  have started : m = (ofConfig {} loneRelay).prepared.opened.announce.tick ⟨0, 0⟩ := rfl
  rw [tick, expire, prepared, loaded, Sweep.expire_empty rfl] at started
  rw [started]
  exact ⟨rfl, rfl, rfl, rfl, List.mem_cons_self⟩

/-- The answer comes at the very moment of the timeout, and is the last that counts. -/
theorem loneStart_attributed :
    let m := (ofConfig {} loneRelay).run loneStart
    let heard := m.step ⟨⟨5000, 5⟩, true⟩ (.hear ⟨1, .reply 0⟩)
    Orderly 2 0 5000 (ofConfig {} loneRelay) loneStart ∧ .sent 1 ⟨.ofOctets 10 0 0 1, 0⟩ 0 ∈ m.log ∧
    m.Awaits 1 ⟨.ofOctets 10 0 0 1, 0⟩ 0 ∧ (∃ key, heard.samples.get? key = some 5000) ∧
    Deaf 2 5000 heard 1 0 ∧ Deaf 2 5000 (m.step ⟨⟨5000, 5⟩, true⟩ .tick) 1 0 := by
  intro m heard
  have orderly : Orderly 2 0 5000 (ofConfig {} loneRelay) loneStart := by
    refine ⟨List.pairwise_singleton _ _, by decide, by simp [loneStart], ?_⟩
    exact ⟨fun _ => by decide, trivial⟩
  obtain ⟨transport, generation, _, flying, made⟩ := loneStart_sweeps
  have awaits : m.Awaits 1 ⟨.ofOctets 10 0 0 1, 0⟩ 0 :=
    ⟨transport, generation, _, flying ▸ List.mem_singleton_self _, rfl, rfl⟩
  obtain ⟨answer, _, afterAnswer, afterTick, _⟩ :=
    answers_are_attributed {} loneRelay (s := ⟨⟨5000, 5⟩, true⟩) orderly made
  refine ⟨orderly, made, awaits, ?_, afterAnswer, afterTick (by decide)⟩
  rcases answer with ⟨missing, _⟩ | ⟨_, _, key, _, samples⟩
  · exact absurd awaits missing
  · exact ⟨key, (samples key).trans (if_pos rfl)⟩

end Monitor

end RelayQuality
