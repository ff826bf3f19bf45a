import RelayQuality.Monitor.Operation

/-!
# What decides about sending

`Control` is the monitor without catalog, samples, cooldowns and notices. Rating, cooldowns and samples
leave it alone (`control_rerateKey` and the like). Of the rest, `tick_cases` and `stop_eq` say all that
can happen.
-/

namespace RelayQuality

namespace Effect

/-- The effect reaches the network. -/
def isTraffic : Effect → Bool
  | opened _ => true
  | sent _ _ _ => true
  | announced _ => false

end Effect

/-- The part of the monitor that decides about sending, with all that was sent. -/
structure Control where
  config : Config
  generation : Nat
  hasTransport : Bool
  sweep : Sweep
  enabled : Bool
  tunnel : Tunnel
  application : Application
  wantsSweep : Bool
  probe : Option Nat
  refresh : Option Nat
  traffic : List Effect

namespace Monitor

/-- The part of the monitor that decides about sending. -/
def control (m : Monitor) : Control :=
  { config := m.config, generation := m.generation, hasTransport := m.hasTransport, sweep := m.sweep
    enabled := m.enabled, tunnel := m.tunnel, application := m.application, wantsSweep := m.wantsSweep
    probe := m.alarms.probe, refresh := m.alarms.refresh, traffic := m.log.filter Effect.isTraffic }

theorem isHeld_eq_false {m : Monitor} : m.isHeld = false ↔ m.tunnel = .off ∧ m.application = .foreground := by
  unfold isHeld
  cases m.tunnel <;> cases m.application <;> decide

theorem isHeld_of_control {m n : Monitor} (same : n.control = m.control) : n.isHeld = m.isHeld := by
  have tunnel : n.tunnel = m.tunnel := congrArg Control.tunnel same
  have application : n.application = m.application := congrArg Control.application same
  rw [isHeld, isHeld, tunnel, application]

/-! ### What leaves it alone -/

theorem markChanged_eq (m : Monitor) (now : Nat) :
    m.markChanged now =
      { m with alarms.progress := some (m.alarms.progress.getD (Millis.add now m.config.progressDelay.millis)) } := by
  unfold markChanged
  split
  next deadline set => rw [set, Option.getD_some, ← set]
  next unset => rw [unset, Option.getD_none]

theorem rerateCity_eq (m : Monitor) (now : Reading) (p : Position) :
    m.rerateCity now p = { m with
      catalog := m.catalog.modifyCity p (m.rated now.epoch)
      alarms.progress := some (m.alarms.progress.getD (Millis.add now.millis m.config.progressDelay.millis)) } := by
  rw [rerateCity, markChanged_eq]

@[simp] theorem control_markChanged (m : Monitor) (now : Nat) : (m.markChanged now).control = m.control := by
  rw [markChanged_eq]; rfl

@[simp] theorem control_clear (m : Monitor) : m.clear.control = m.control := rfl

@[simp] theorem control_armCooldown (m : Monitor) (now : Reading) : (m.armCooldown now).control = m.control := rfl

@[simp] theorem control_rerateCity (m : Monitor) (now : Reading) (p : Position) :
    (m.rerateCity now p).control = m.control := control_markChanged _ _

@[simp] theorem control_rerateKey (m : Monitor) (now : Reading) (key : String) :
    (m.rerateKey now key).control = m.control := by
  unfold rerateKey
  split
  · exact control_rerateCity _ _ _
  · rfl

@[simp] theorem control_rerateAll (m : Monitor) (now : Reading) : (m.rerateAll now).control = m.control :=
  control_markChanged _ _

@[simp] theorem control_recordLatency (m : Monitor) (now : Reading) (key : String) (ms : Nat) :
    (m.recordLatency now key ms).control = m.control := control_rerateKey _ _ _

@[simp] theorem control_setObserver (m : Monitor) (now : Reading) (o : Observer) :
    (m.setObserver now o).control = m.control := control_rerateAll _ _

@[simp] theorem control_replaceCatalog (m : Monitor) (countries : List Country) :
    (m.replaceCatalog countries).control = m.control := rfl

@[simp] theorem control_setCooldown (m : Monitor) (now : Reading) (key : String) (timeout : Int) :
    (m.setCooldown now key timeout).control = m.control :=
  (control_armCooldown _ _).trans (control_rerateKey _ _ _)

@[simp] theorem control_setCityCooldown (m : Monitor) (now : Reading) (country code : String) (timeout : Int) :
    (m.setCityCooldown now country code timeout).2.control = m.control := by
  unfold setCityCooldown
  split
  · rfl
  · rw [control_armCooldown]
    split
    · exact control_rerateCity _ _ _
    · exact control_markChanged _ _

/-- What holds after each rating of a city holds after a row of them. -/
theorem rerateKeys_keep {I : Monitor → Prop} {now : Reading} (kept : ∀ {n key}, I n → I (n.rerateKey now key))
    (keys : List String) {m : Monitor} (start : I m) : I (keys.foldl (fun m key => m.rerateKey now key) m) := by
  induction keys generalizing m with
  | nil => exact start
  | cons key rest ih => exact ih (kept start)

@[simp] theorem control_clearExpiredCooldowns (m : Monitor) (now : Reading) :
    (m.clearExpiredCooldowns now).control = m.control :=
  (control_armCooldown _ _).trans
    (rerateKeys_keep (I := fun n => n.control = m.control) (control_rerateKey _ _ _).trans _ rfl)

end Monitor

end RelayQuality
