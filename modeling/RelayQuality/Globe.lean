/-!
# Places on the globe

`arc` is the central angle between two places. Angles are kept for ordering as bit patterns, whose
`Distance.rank` puts every double into one line, the ones that are no number included.
-/

namespace RelayQuality

/-- A coordinate pair in degrees. -/
structure Place where
  latitude : Float
  longitude : Float
deriving DecidableEq, Inhabited

namespace Globe

/-- The ratio of a circle to its diameter. -/
def pi : Float := 3.141592653589793

def radians (degrees : Float) : Float := degrees * (pi / 180.0)

def square (x : Float) : Float := x * x

/-- The smaller of a number and one; one also where there is no number. -/
def atMostOne (x : Float) : Float := if x < 1.0 then x else 1.0

/-- The central angle between two places in radians, by the haversine. The antipode has the angle
`pi`. -/
def arc (a b : Place) : Float :=
  let across := square (Float.sin (radians (b.latitude - a.latitude) / 2.0))
  let along := square (Float.sin (radians (b.longitude - a.longitude) / 2.0))
  let haversine := across + Float.cos (radians a.latitude) * Float.cos (radians b.latitude) * along
  2.0 * Float.asin (atMostOne (Float.sqrt haversine))

/-- Two places lie near each other within an eighth of the circumference. -/
def near (a b : Place) : Bool := arc a b < pi / 4.0

end Globe

/-- Where probes start from. -/
structure Observer where
  place : Place
  /-- The country, compared without regard to ASCII case. -/
  country : String
deriving DecidableEq, Inhabited

namespace Observer

/-- The central angle from the observer to a place. -/
def distanceTo (o : Observer) (p : Place) : Float := Globe.arc o.place p

end Observer

/-- The bit pattern of a distance. -/
structure Distance where
  bits : UInt64
deriving DecidableEq, Repr, Inhabited

namespace Distance

def ofFloat (x : Float) : Distance := ⟨x.toBits⟩

/-- The pattern of what is no number, with the sign bit set. -/
def negativeNaN : Distance := ⟨0xfff8000000000000⟩

/-- The place of a pattern in the total order of doubles: patterns with the sign bit count down, and
stand before all others. -/
def rank (d : Distance) : Nat :=
  if d.bits.toNat < 9223372036854775808 then d.bits.toNat + 9223372036854775808
  else 18446744073709551615 - d.bits.toNat

/-- The total order of doubles. -/
def le (a b : Distance) : Bool := a.rank ≤ b.rank

theorem le_refl (a : Distance) : le a a = true := by simp [le]

theorem le_trans (a b c : Distance) (ab : le a b = true) (bc : le b c = true) : le a c = true := by
  simp only [le, decide_eq_true_eq] at *; omega

theorem le_total (a b : Distance) : (le a b || le b a) = true := by
  simp only [le, Bool.or_eq_true, decide_eq_true_eq]; omega

/-- Different patterns have different ranks. -/
theorem rank_injective {a b : Distance} (same : a.rank = b.rank) : a = b := by
  have small := a.bits.toNat_lt
  have small' := b.bits.toNat_lt
  have equal : a.bits.toNat = b.bits.toNat := by
    unfold rank at same
    split at same <;> split at same <;> omega
  cases a; cases b
  simp only [Distance.mk.injEq]
  exact UInt64.toNat_inj.mp equal

end Distance

end RelayQuality
