import RelayQuality.Time.Saturation

/-!
# Lengths of time

A `Duration` has whole seconds and nanoseconds. Timers use its whole milliseconds.
-/

namespace RelayQuality

/-- A length of time. -/
structure Duration where
  secs : Nat
  nanos : Nat
deriving DecidableEq, Repr, Inhabited

namespace Duration

/-- The length with this many seconds and nanoseconds, of which a billion make a second. -/
def ofParts (secs nanos : Nat) : Duration := ⟨secs + nanos / 1000000000, nanos % 1000000000⟩

/-- The length of so many milliseconds. -/
def ofMillis (ms : Nat) : Duration := ⟨ms / 1000, ms % 1000 * 1000000⟩

/-- The longest length that 64-bit seconds can hold. -/
def longest : Duration := ⟨Millis.last, 999999999⟩

/-- The completed milliseconds, however many. -/
def wholeMillis (d : Duration) : Nat := d.secs * 1000 + d.nanos / 1000000

/-- The completed milliseconds as a counter holds them. -/
def millis (d : Duration) : Nat := min d.wholeMillis Millis.last

/-- No time at all, not even a nanosecond. -/
def isZero (d : Duration) : Bool := d.secs == 0 && d.nanos == 0

theorem wholeMillis_ofMillis (ms : Nat) : (ofMillis ms).wholeMillis = ms := by
  simp only [wholeMillis, ofMillis]; omega

end Duration

end RelayQuality
