/-!
# Counters at the ends of their range

Milliseconds are counted in 64 bits without sign and wall-clock seconds in 64 bits with sign.
`Millis.add` and `Epoch.add` stop at the last value, `Millis.wrap` and `Epoch.wrap` start over.
-/

namespace RelayQuality

namespace Millis

/-- The largest millisecond count. -/
def last : Nat := 18446744073709551615

/-- The remainder that 64 bits keep of a count. -/
def wrap (n : Nat) : Nat := n % (last + 1)

/-- A sum that stops at the largest count. -/
def add (a b : Nat) : Nat := min (a + b) last

/-- A product that stops at the largest count. -/
def mul (a b : Nat) : Nat := min (a * b) last

theorem add_le_last (a b : Nat) : add a b ≤ last := Nat.min_le_right _ _

theorem lt_add {a b : Nat} (h : a < last) (positive : 0 < b) : a < add a b := by
  unfold add; omega

theorem add_eq {a b : Nat} (h : a + b ≤ last) : add a b = a + b := Nat.min_eq_left h

theorem wrap_eq {n : Nat} (h : n ≤ last) : wrap n = n := Nat.mod_eq_of_lt (Nat.lt_succ_of_le h)

end Millis

namespace Epoch

def first : Int := -9223372036854775808

def last : Int := 9223372036854775807

/-- The nearest second in range. -/
def clamp (s : Int) : Int := max first (min s last)

/-- A sum that stops at the ends of the range. -/
def add (a b : Int) : Int := clamp (a + b)

/-- A difference that stops at the ends of the range. -/
def sub (a b : Int) : Int := clamp (a - b)

/-- The second that 64 bits keep of a sum that runs past the range. -/
def wrap (s : Int) : Int := Int.bmod s (Millis.last + 1)

end Epoch

end RelayQuality
