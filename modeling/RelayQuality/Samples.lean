import RelayQuality.KeyMap
import RelayQuality.Time.Saturation

/-!
# Round-trip samples

`Samples` holds the latest round trip of each server beside a running sum in 64 bits, from which
`average` is found without a walk. `meanOf` is the mean of chosen servers.
-/

namespace RelayQuality

/-- The least whole number that, taken `count` times, reaches the sum; zero for no items. -/
def ceilMean (sum count : Nat) : Nat := if count = 0 then 0 else (sum + count - 1) / count

theorem ceilMean_le_iff {sum count m : Nat} (positive : 0 < count) : ceilMean sum count ≤ m ↔ sum ≤ m * count := by
  unfold ceilMean
  rw [if_neg (by omega), Nat.le_iff_lt_add_one, Nat.div_lt_iff_lt_mul positive, Nat.add_mul]
  omega

/-- The latest round trip of each server, in milliseconds. -/
structure Samples where
  values : KeyMap Nat := .empty
  /-- The sum of the values as 64 bits keep it. -/
  sum : Nat := 0
deriving Inhabited

namespace Samples

/-- The sum after one value takes the place of another. -/
def exchange (sum old new : Nat) : Nat := Millis.wrap (sum + (Millis.last + 1 - old) + new)

/-- Put the sample of a server in place of its last. -/
def record (s : Samples) (key : String) (ms : Nat) : Samples :=
  match s.values.get? key with
  | some old => ⟨s.values.insert key ms, exchange s.sum old ms⟩
  | none => ⟨s.values.insert key ms, Millis.wrap (s.sum + ms)⟩

def get? (s : Samples) (key : String) : Option Nat := s.values.get? key

/-- The number of servers with a sample. -/
def size (s : Samples) : Nat := s.values.size

def average (s : Samples) : Nat := ceilMean s.sum s.size

/-- The samples above zero of the listed servers, in the order of the list. -/
def positive (s : Samples) (keys : List String) : List Nat := (keys.filterMap s.get?).filter (0 < ·)

/-- The mean of the samples above zero of the listed servers, rounded up. -/
def meanOf (s : Samples) (keys : List String) : Nat :=
  ceilMean (Millis.wrap (@List.sum Nat _ ⟨0⟩ (s.positive keys))) (s.positive keys).length

def empty : Samples := {}

end Samples

end RelayQuality
