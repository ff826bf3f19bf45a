import Mathlib.Order.Bounds.Basic
import RelayQuality.Proofs.Course
import RelayQuality.Proofs.Run

/-!
# The alarm for cooldowns

The alarm waits for the soonest end. It counts whole seconds from the operation that last set it (`LastSetAt`), and
`step_sets` says that an operation either sets it from the cooldowns that it leaves, or leaves both alone.
-/

namespace RelayQuality

namespace ManualClock

/-- The second of the epoch that the clock stands at can be counted. -/
def InRange (c : ManualClock) : Prop :=
  Epoch.first ≤ c.base + (c.millis / 1000 : Nat) ∧ c.base + (c.millis / 1000 : Nat) ≤ Epoch.last

instance (c : ManualClock) : Decidable c.InRange := inferInstanceAs (Decidable (_ ∧ _))

theorem reading_epoch {c : ManualClock} (inRange : c.InRange) : c.reading.epoch = c.base + (c.millis / 1000 : Nat) := by
  obtain ⟨low, high⟩ := inRange
  simp only [Epoch.first, Epoch.last] at low high
  refine Int.bmod_eq_of_le ?_ ?_ <;> simp only [Millis.last] <;> omega

end ManualClock

namespace Monitor

variable {m n : Monitor}

/-! ### Time -/

/-- An alarm that is not cut off at the last count rings in a second that is not before the end. -/
theorem end_reached {base second : Int} {set now : Nat}
    (short : Millis.add set (millisUntil (base + (set / 1000 : Nat)) second) < Millis.last)
    (rung : Millis.add set (millisUntil (base + (set / 1000 : Nat)) second) ≤ now) :
    second ≤ base + (now / 1000 : Nat) := by
  simp only [Millis.add, Millis.mul, millisUntil, Epoch.sub, Epoch.clamp, Epoch.first, Epoch.last, Millis.last]
    at short rung
  omega

/-- The end is waited for in whole seconds, so that less than one is lost. -/
theorem deadline_le {base second : Int} {set reached : Nat} (come : second ≤ base + (reached / 1000 : Nat)) :
    Millis.add set (millisUntil (base + (set / 1000 : Nat)) second) ≤ max set (reached + 999) := by
  simp only [Millis.add, Millis.mul, millisUntil, Epoch.sub, Epoch.clamp, Epoch.first, Epoch.last, Millis.last]
  omega

theorem first_millis (base second : Int) :
    IsLeast {millis : Nat | second ≤ base + (millis / 1000 : Nat)} ((second - base).toNat * 1000) := by
  constructor
  · change second ≤ base + (((second - base).toNat * 1000 / 1000 : Nat) : Int)
    omega
  · intro millis (reached : second ≤ base + (millis / 1000 : Nat))
    omega

theorem isLeast_of_nextEnd {c : Cooldowns} {second : Int} (next : c.nextEnd? = some second) :
    IsLeast {other | other ∈ c.ends.values} second := by
  obtain ⟨member, least⟩ := List.min?_eq_some_iff.mp next
  exact ⟨member, fun other listed => least other listed⟩

theorem nextEnd_isSome (c : Cooldowns) : c.nextEnd?.isSome = true ↔ c.isEmpty = false := by
  simp only [Cooldowns.nextEnd?, Cooldowns.isEmpty, KeyMap.values, KeyMap.isEmpty]
  cases c.ends.entries <;> simp [List.min?]

/-! ### What leaves cooldowns and their alarm alone -/

def cooling (m : Monitor) : Cooldowns × Option Nat := (m.cooldowns, m.alarms.cooldown)

@[simp] theorem cooling_rerateCity (m : Monitor) (now : Reading) (p : Position) :
    (m.rerateCity now p).cooling = m.cooling := by
  rw [rerateCity, markChanged_eq]
  rfl

@[simp] theorem cooling_rerateKey (m : Monitor) (now : Reading) (key : String) :
    (m.rerateKey now key).cooling = m.cooling := by
  unfold rerateKey
  split
  · exact cooling_rerateCity m now _
  · rfl

@[simp] theorem cooling_rerateAll (m : Monitor) (now : Reading) : (m.rerateAll now).cooling = m.cooling := by
  rw [rerateAll, markChanged_eq]
  rfl

@[simp] theorem cooling_stop (m : Monitor) (now : Reading) : (m.stop now).cooling = m.cooling := by
  obtain ⟨_, _, _, same⟩ := stop_shape m now
  rw [same]
  rfl

@[simp] theorem cooling_tick (m : Monitor) (now : Reading) : (m.tick now).cooling = m.cooling := by
  obtain ⟨_, _, _, _, _, _, same⟩ := tick_shape m now
  rw [same]
  rfl

@[simp] theorem cooling_start (m : Monitor) (s : Surroundings) : (m.start s).cooling = m.cooling := by
  obtain ⟨_, _, _, _, _, _, _, _, _, same⟩ := start_shape m s
  rw [same]
  rfl

@[simp] theorem cooling_refresh (m : Monitor) (s : Surroundings) : (m.refresh s).cooling = m.cooling := by
  rcases refresh_cases m s with ⟨_, same⟩ | ⟨_, same⟩ <;> rw [same]
  exact cooling_start m.clear s

@[simp] theorem cooling_hearReply (m : Monitor) (now : Reading) (k : UInt16) :
    (m.hearReply now k).cooling = m.cooling := by
  rcases hearReply_cases m now k with ⟨_, same⟩ | ⟨_, p, _, _, same⟩ <;> rw [same]
  exact (cooling_tick _ now).trans (cooling_rerateKey _ now p.key)

@[simp] theorem cooling_hear (m : Monitor) (now : Reading) (event : TransportEvent) :
    (m.hear now event).cooling = m.cooling :=
  hear_keeps (I := fun n => n.cooling = m.cooling) rfl (cooling_hearReply m now) event

@[simp] theorem cooling_activate (m : Monitor) (now : Reading) : (m.activate now).cooling = m.cooling := by
  unfold activate
  split <;> rfl

@[simp] theorem cooling_setEnabled (m : Monitor) (s : Surroundings) (enabled : Bool) :
    (m.setEnabled s enabled).cooling = m.cooling := by
  rcases setEnabled_cases m s enabled with ⟨_, same⟩ | ⟨_, _, same⟩ | ⟨_, _, _, rfl, same⟩ <;> rw [same]
  · exact cooling_start _ s
  · rfl

@[simp] theorem cooling_setTunnel (m : Monitor) (s : Surroundings) (tunnel : Tunnel) :
    (m.setTunnel s tunnel).cooling = m.cooling := by
  rcases setTunnel_cases m s tunnel with ⟨_, same⟩ | ⟨_, _, same⟩ | ⟨_, _, same⟩ <;> rw [same]
  · exact cooling_stop _ s.now
  · exact cooling_start _ s
  · rfl

@[simp] theorem cooling_setApplication (m : Monitor) (s : Surroundings) (application : Application) :
    (m.setApplication s application).cooling = m.cooling := by
  rcases setApplication_cases m s application with
    ⟨_, _, same⟩ | ⟨_, _, same⟩ | ⟨_, _, _, same⟩ | ⟨_, _, same⟩ <;> rw [same]
  · exact cooling_stop _ s.now
  · rfl
  · exact cooling_refresh _ s
  · rfl

/-- A ring first takes away the alarm, if it is due. -/
theorem cooling_sweepRung (m : Monitor) (s : Surroundings) :
    (m.sweepRung s).cooling = (m.cooldowns, Alarms.rest m.alarms.cooldown s.now.millis) := by
  have probed : (m.probeRung s).cooling = (m.cooldowns, Alarms.rest m.alarms.cooldown s.now.millis) := by
    unfold probeRung
    split
    · exact cooling_tick { m with alarms := m.alarms.afterRinging s.now.millis } s.now
    · rfl
  unfold sweepRung
  split
  · exact (cooling_start _ s).trans probed
  · exact probed

/-! ### What sets the alarm -/

/-- The alarm stands as it is set at a moment. -/
def SetAt (t : Reading) (m : Monitor) : Prop := m.alarms.cooldown = (m.armCooldown t).alarms.cooldown

theorem setAt_of_cooling {t : Reading} (set : SetAt t m) (same : n.cooling = m.cooling) : SetAt t n := by
  obtain ⟨cooldowns, alarm⟩ := Prod.mk.inj same
  simp only [SetAt, armCooldown] at set ⊢
  rw [alarm, set, cooldowns]

theorem clearExpiredCooldowns_cooldowns (m : Monitor) (now : Reading) :
    (m.clearExpiredCooldowns now).cooldowns = m.cooldowns.dropExpired now.epoch := by
  let lifted := { m with cooldowns := m.cooldowns.dropExpired now.epoch }
  have rated := rerateKeys_keep (I := fun n => n.cooling = lifted.cooling) (cooling_rerateKey _ now _).trans
    (m.cooldowns.expired now.epoch) rfl
  exact congrArg Prod.fst rated

theorem setCityCooldown_sets (m : Monitor) (now : Reading) (country code : String) (timeout : Int) :
    ((m.cityWithCode? country code).isSome = true ∧ SetAt now (m.setCityCooldown now country code timeout).2) ∨
    (¬ (m.cityWithCode? country code).isSome = true ∧
      (m.setCityCooldown now country code timeout).2.cooling = m.cooling) := by
  unfold setCityCooldown
  split
  next missing => exact Or.inr ⟨by simp [missing], rfl⟩
  next p city named => exact Or.inl ⟨by simp [named], rfl⟩

theorem ring_sets (m : Monitor) (s : Surroundings) :
    (Alarms.isDue m.alarms.cooldown s.now.millis = true ∧ SetAt s.now (m.ring s) ∧
      (m.ring s).cooldowns = m.cooldowns.dropExpired s.now.epoch) ∨
    (¬ Alarms.isDue m.alarms.cooldown s.now.millis = true ∧ (m.ring s).cooling = m.cooling) := by
  have swept := cooling_sweepRung m s
  rw [ring_eq]
  by_cases due : Alarms.isDue m.alarms.cooldown s.now.millis = true
  · have cleared := clearExpiredCooldowns_cooldowns (m.sweepRung s) s.now
    rw [show (m.sweepRung s).cooldowns = m.cooldowns from congrArg Prod.fst swept] at cleared
    refine Or.inl ⟨due, ?_⟩
    rw [if_pos due]
    dsimp only
    split <;> exact ⟨rfl, cleared⟩
  · rw [Alarms.rest, if_neg due] at swept
    refine Or.inr ⟨due, ?_⟩
    rw [if_neg due]
    dsimp only
    split <;> exact swept

def SetsAlarm (m : Monitor) (s : Surroundings) : Operation → Prop
  | .setCooldown _ _ => True
  | .setCityCooldown country code _ => (m.cityWithCode? country code).isSome = true
  | .clearExpiredCooldowns => True
  | .ring => Alarms.isDue m.alarms.cooldown s.now.millis = true
  | _ => False

theorem step_sets (m : Monitor) (s : Surroundings) {op : Operation} (lives : op ≠ .shutdown) :
    (SetsAlarm m s op ∧ SetAt s.now (m.step s op)) ∨ (¬ SetsAlarm m s op ∧ (m.step s op).cooling = m.cooling) := by
  cases op with
  | activate => exact Or.inr ⟨id, cooling_activate m s.now⟩
  | start => exact Or.inr ⟨id, cooling_start m s⟩
  | stop => exact Or.inr ⟨id, cooling_stop m s.now⟩
  | refresh => exact Or.inr ⟨id, cooling_refresh m s⟩
  | clear => exact Or.inr ⟨id, rfl⟩
  | shutdown => exact absurd rfl lives
  | tick => exact Or.inr ⟨id, cooling_tick m s.now⟩
  | ring => exact (ring_sets m s).imp_left fun both => ⟨both.1, both.2.1⟩
  | catalogChanged => exact Or.inr ⟨id, cooling_start m s⟩
  | clearExpiredCooldowns => exact Or.inl ⟨trivial, rfl⟩
  | hearReply k => exact Or.inr ⟨id, cooling_hearReply m s.now k⟩
  | hear event => exact Or.inr ⟨id, cooling_hear m s.now event⟩
  | setEnabled enabled => exact Or.inr ⟨id, cooling_setEnabled m s enabled⟩
  | setObserver o => exact Or.inr ⟨id, cooling_rerateAll _ s.now⟩
  | setTunnel tunnel => exact Or.inr ⟨id, cooling_setTunnel m s tunnel⟩
  | setApplication application => exact Or.inr ⟨id, cooling_setApplication m s application⟩
  | recordLatency key ms => exact Or.inr ⟨id, cooling_rerateKey _ s.now key⟩
  | setCooldown key timeout => exact Or.inl ⟨trivial, rfl⟩
  | setCityCooldown country code timeout => exact setCityCooldown_sets m s.now country code timeout
  | replaceCatalog countries => exact Or.inr ⟨id, rfl⟩

/-! ### Runs -/

/-- The reading at which an operation of a run set the alarm for cooldowns last. -/
inductive LastSetAt (m : Monitor) : List (Surroundings × Operation) → Reading → Prop
  | now {before : List (Surroundings × Operation)} {s : Surroundings} {op : Operation} :
    SetsAlarm (m.run before) s op → LastSetAt m (before ++ [(s, op)]) s.now
  | earlier {before : List (Surroundings × Operation)} {s : Surroundings} {op : Operation} {t : Reading} :
    ¬ SetsAlarm (m.run before) s op → LastSetAt m before t → LastSetAt m (before ++ [(s, op)]) t

theorem LastSetAt.listed {operations : List (Surroundings × Operation)} {t : Reading}
    (last : LastSetAt m operations t) : ∃ entry ∈ operations, entry.1.now = t := by
  induction last with
  | now sets => exact ⟨_, List.mem_append_right _ (List.mem_singleton_self _), rfl⟩
  | earlier spares last ih =>
    obtain ⟨entry, member, same⟩ := ih
    exact ⟨entry, List.mem_append_left _ member, same⟩

/-- Until the alarm is first set there is no cooldown; from then on it stands as it was set last. -/
theorem run_sets (blank : m.cooling = (.empty, none)) {operations : List (Surroundings × Operation)}
    (lives : ∀ entry ∈ operations, entry.2 ≠ .shutdown) :
    (m.run operations).cooling = (.empty, none) ∨ ∃ t, LastSetAt m operations t ∧ SetAt t (m.run operations) := by
  induction operations using List.reverseRecOn with
  | nil => exact Or.inl blank
  | append_singleton before entry ih =>
    obtain ⟨s, op⟩ := entry
    have found := ih fun entry member => lives entry (List.mem_append_left _ member)
    rw [run_concat]
    rcases step_sets (m.run before) s (lives (s, op) (by simp)) with ⟨sets, set⟩ | ⟨spares, same⟩
    · exact Or.inr ⟨s.now, .now sets, set⟩
    · rcases found with unset | ⟨t, last, set⟩
      · exact Or.inl (same.trans unset)
      · exact Or.inr ⟨t, .earlier spares last, setAt_of_cooling set same⟩

theorem ring_leaves_later {s : Surroundings} (due : Alarms.isDue m.alarms.cooldown s.now.millis = true) :
    ∀ second ∈ (m.ring s).cooldowns.ends.values, s.now.epoch < second := by
  intro second listed
  rcases ring_sets m s with ⟨_, _, dropped⟩ | ⟨early, _⟩
  · rw [dropped] at listed
    obtain ⟨entry, kept, rfl⟩ := List.mem_map.mp listed
    exact of_decide_eq_true (List.mem_filter.mp kept).2
  · exact absurd due early

/-- The alarm is set exactly while there are cooldowns, and rings no earlier than their soonest end and at most 999
milliseconds after it, or after it was last set. -/
theorem cooldown_alarm_tracks_soonest_end (config : Config) (catalog : Catalog) {base : Int}
    {operations : List (Surroundings × Operation)}
    (manual : ∀ entry ∈ operations, ∃ clock : ManualClock,
      clock.base = base ∧ clock.InRange ∧ entry.1.now = clock.reading)
    (lives : ∀ entry ∈ operations, entry.2 ≠ .shutdown) :
    let fresh := ofConfig config catalog
    let m := fresh.run operations
    (m.alarms.cooldown.isSome = true ↔ m.cooldowns.isEmpty = false) ∧
    (∀ deadline, m.alarms.cooldown = some deadline →
      ∃ second, IsLeast {other | other ∈ m.cooldowns.ends.values} second ∧
        (deadline < Millis.last → ∀ clock : ManualClock, clock.base = base → clock.InRange →
          deadline ≤ clock.millis → second ≤ clock.reading.epoch) ∧
        ∃ t first, LastSetAt fresh operations t ∧
          IsLeast {millis : Nat | second ≤ base + (millis / 1000 : Nat)} first ∧
          deadline ≤ max t.millis (first + 999)) ∧
    (∀ s, Alarms.isDue m.alarms.cooldown s.now.millis = true →
      ∀ second ∈ (m.ring s).cooldowns.ends.values, s.now.epoch < second) := by
  intro fresh m
  refine ⟨?_, ?_, fun s due => ring_leaves_later due⟩
  · rcases run_sets (m := fresh) rfl lives with blank | ⟨t, _, set⟩
    · obtain ⟨cooldowns, alarm⟩ := Prod.mk.inj blank
      simp only [m, cooldowns, alarm]
      decide
    · rw [← nextEnd_isSome, show m.alarms.cooldown = _ from set, armCooldown, Option.isSome_map]
  · intro deadline armed
    rcases run_sets (m := fresh) rfl lives with blank | ⟨t, last, set⟩
    · exact nomatch (congrArg Prod.snd blank).symm.trans armed
    · obtain ⟨entry, member, rfl⟩ := last.listed
      obtain ⟨clock, rfl, inRange, reads⟩ := manual entry member
      obtain ⟨second, next, rfl⟩ := Option.map_eq_some_iff.mp (set.symm.trans armed)
      rw [reads] at last ⊢
      rw [ManualClock.reading_epoch inRange]
      refine ⟨second, isLeast_of_nextEnd next, ?_, clock.reading, _, last, first_millis clock.base second, ?_⟩
      · intro short later same reachable rung
        rw [ManualClock.reading_epoch reachable, same]
        exact end_reached short rung
      · exact deadline_le (first_millis clock.base second).1

/-- The second cooldown ends before the first, and is begun in the last millisecond of a second. -/
def shorterCooldown : List (Surroundings × Operation) :=
  [(⟨⟨1500, 101⟩, true⟩, .setCooldown "a" 60), (⟨⟨2000, 102⟩, true⟩, .tick),
    (⟨⟨2999, 102⟩, true⟩, .setCooldown "b" 30), (⟨⟨2999, 102⟩, true⟩, .stop)]

theorem shorterCooldown_tracked :
    let m := (ofConfig {} ⟨[]⟩).run shorterCooldown
    (∀ entry ∈ shorterCooldown, ∃ clock : ManualClock,
      clock.base = 100 ∧ clock.InRange ∧ entry.1.now = clock.reading) ∧
    (∀ entry ∈ shorterCooldown, entry.2 ≠ .shutdown) ∧
    m.alarms.cooldown = some 32999 ∧ m.cooldowns.isEmpty = false ∧
    (∃ second, second ∈ m.cooldowns.ends.values ∧ second ≤ (⟨100, 32999⟩ : ManualClock).reading.epoch) ∧
    ∀ second ∈ (m.ring ⟨⟨33000, 133⟩, true⟩).cooldowns.ends.values, 133 < second := by
  intro m
  have manual : ∀ entry ∈ shorterCooldown, ∃ clock : ManualClock,
      clock.base = 100 ∧ clock.InRange ∧ entry.1.now = clock.reading := by
    intro entry member
    refine ⟨⟨100, entry.1.now.millis⟩, rfl, ?_⟩
    revert member entry
    decide
  have lives : ∀ entry ∈ shorterCooldown, entry.2 ≠ .shutdown := by simp [shorterCooldown]
  have armed : m.alarms.cooldown = some 32999 := by decide
  obtain ⟨used, soonest, rung⟩ := cooldown_alarm_tracks_soonest_end {} ⟨[]⟩ manual lives
  refine ⟨manual, lives, armed, used.mp (by rw [armed]; rfl), ?_, rung ⟨⟨33000, 133⟩, true⟩ (by decide)⟩
  obtain ⟨second, least, early, _⟩ := soonest 32999 armed
  exact ⟨second, least.1, early (by decide) ⟨100, 32999⟩ rfl (by decide) (Nat.le_refl _)⟩

end Monitor

end RelayQuality
