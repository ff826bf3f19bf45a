import RelayQuality.Time.Saturation

/-!
# Clock readings

Probes are timed on a counter of milliseconds, cooldowns on seconds of the epoch. A `Reading` holds
both at one moment. A `ManualClock` derives the second from the first.
-/

namespace RelayQuality

/-- One moment as both clocks show it. -/
structure Reading where
  millis : Nat
  epoch : Int
deriving DecidableEq, Repr, Inhabited

/-- A clock that moves only when told to. -/
structure ManualClock where
  /-- The second of the epoch at counter zero. -/
  base : Int
  millis : Nat := 0
deriving DecidableEq, Repr, Inhabited

namespace ManualClock

def reading (c : ManualClock) : Reading :=
  ⟨c.millis, Epoch.wrap (c.base + (c.millis / 1000 : Nat))⟩

/-- Let milliseconds pass; the counter starts over after its last value. -/
def advance (c : ManualClock) (ms : Nat) : ManualClock := { c with millis := Millis.wrap (c.millis + ms) }

/-- Let microseconds pass, of which only completed milliseconds count. -/
def advanceMicros (c : ManualClock) (us : Nat) : ManualClock := c.advance (us / 1000)

/-- Put the counter to a value. -/
def set (c : ManualClock) (ms : Nat) : ManualClock := { c with millis := ms }

end ManualClock

end RelayQuality
