import RelayQuality.Sweep

/-!
# Phases and notices

The monitor is in one of three phases. Tunnel and application can hold it back. A `Feed` keeps the
last notices for a subscriber that is slow to read.
-/

namespace RelayQuality

inductive Phase where
  | idle
  | sweeping
  /-- Held back by the tunnel or the application. -/
  | suspended
deriving DecidableEq, Repr, Inhabited

/-- The tunnel is off, or anything else. -/
inductive Tunnel where
  | off
  | active
deriving DecidableEq, Repr, Inhabited

inductive Application where
  | foreground
  | background
deriving DecidableEq, Repr, Inhabited

/-- A change that is announced to subscribers. -/
structure Notice where
  progress : Progress
  phase : Phase
deriving DecidableEq, Repr, Inhabited

/-- What a subscriber reads at once. -/
structure Feed where
  /-- The number of notices that were lost before the first one kept. -/
  lost : Nat
  notices : List Notice
deriving DecidableEq, Repr

namespace Feed

/-- The most notices that wait for a subscriber. -/
def capacity : Nat := 64

/-- What is left of notices for a subscriber that reads them only now. -/
def ofNotices (notices : List Notice) : Feed :=
  ⟨notices.length - capacity, notices.drop (notices.length - capacity)⟩

end Feed

end RelayQuality
