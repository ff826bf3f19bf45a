/-!
# Alarms

The monitor leaves its later work as deadlines. `Alarms.takeDue` rings each alarm once.
-/

namespace RelayQuality

/-- Deadlines on the millisecond counter, each for one kind of work. -/
structure Alarms where
  /-- The oldest probe in flight times out. -/
  probe : Option Nat := none
  /-- The next sweep is due. -/
  refresh : Option Nat := none
  /-- The soonest cooldown ends. -/
  cooldown : Option Nat := none
  /-- Collected changes are to be announced. -/
  progress : Option Nat := none
deriving DecidableEq, Repr, Inhabited

/-- The alarms that rang. -/
structure Rung where
  probe : Bool
  refresh : Bool
  cooldown : Bool
  progress : Bool
deriving DecidableEq, Repr

namespace Alarms

/-- An alarm is set and its time has come. -/
def isDue (alarm : Option Nat) (now : Nat) : Bool := alarm.any (· ≤ now)

/-- What remains of an alarm after it rang. -/
def rest (alarm : Option Nat) (now : Nat) : Option Nat := if isDue alarm now then none else alarm

def next? (a : Alarms) : Option Nat := [a.probe, a.refresh, a.cooldown, a.progress].filterMap id |>.min?

def due (a : Alarms) (now : Nat) : Rung :=
  ⟨isDue a.probe now, isDue a.refresh now, isDue a.cooldown now, isDue a.progress now⟩

def afterRinging (a : Alarms) (now : Nat) : Alarms :=
  ⟨rest a.probe now, rest a.refresh now, rest a.cooldown now, rest a.progress now⟩

/-- The alarms that ring now, and those that stay set. -/
def takeDue (a : Alarms) (now : Nat) : Rung × Alarms := (a.due now, a.afterRinging now)

def off : Alarms := {}

end Alarms

end RelayQuality
