/-!
# Grades of a connection

`Grade` is the discrete quality of a location. `noData` stands outside the scale: promotion leaves
it alone, and its level is below zero.
-/

namespace RelayQuality

inductive Grade where
  | noData
  | unavailable
  | poor
  | good
  | excellent
deriving DecidableEq, Repr, Inhabited

namespace Grade

def level : Grade → Int
  | noData => -1
  | unavailable => 0
  | poor => 1
  | good => 2
  | excellent => 3

instance : LE Grade := ⟨fun a b => a.level ≤ b.level⟩
instance : LT Grade := ⟨fun a b => a.level < b.level⟩
instance (a b : Grade) : Decidable (a ≤ b) := inferInstanceAs (Decidable (a.level ≤ b.level))
instance (a b : Grade) : Decidable (a < b) := inferInstanceAs (Decidable (a.level < b.level))

def order (a b : Grade) : Ordering := compare a.level b.level

def better (a b : Grade) : Grade := if b < a then a else b

/-- One step up, at most to `excellent`. -/
def promote : Grade → Grade
  | noData => noData
  | unavailable => poor
  | poor => good
  | good => excellent
  | excellent => excellent

/-- One step up where the condition holds. -/
def promoteIf (g : Grade) (condition : Bool) : Grade := if condition then g.promote else g

/-- At least one server can be used. -/
def isAvailable (g : Grade) : Bool := unavailable < g

/-- The word of a grade in prose. -/
def label : Grade → String
  | noData => "no data"
  | unavailable => "unavailable"
  | poor => "poor"
  | good => "good"
  | excellent => "excellent"

def word : Grade → String
  | noData => "nodata"
  | unavailable => "unavailable"
  | poor => "poor"
  | good => "good"
  | excellent => "excellent"

def ofWord? : String → Option Grade
  | "nodata" => some noData
  | "unavailable" => some unavailable
  | "poor" => some poor
  | "good" => some good
  | "excellent" => some excellent
  | _ => none

theorem level_injective {a b : Grade} (same : a.level = b.level) : a = b := by
  cases a <;> cases b <;> simp_all [level]

end Grade

end RelayQuality
