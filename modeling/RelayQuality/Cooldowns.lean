import RelayQuality.KeyMap
import RelayQuality.Time.Saturation

/-!
# Cooldowns of servers

`Cooldowns` holds the second until which a server is suppressed. An entry whose second has come no
longer suppresses, also before `dropExpired` removes it.
-/

namespace RelayQuality

/-- The second of the epoch at which the suppression of each server ends. -/
structure Cooldowns where
  ends : KeyMap Int := .empty
deriving Inhabited

namespace Cooldowns

def empty : Cooldowns := {}

/-- Suppress a server until a second. -/
def setEnd (c : Cooldowns) (key : String) (second : Int) : Cooldowns := ⟨c.ends.insert key second⟩

def lift (c : Cooldowns) (key : String) : Cooldowns := ⟨c.ends.erase key⟩

/-- Suppress a server for a number of seconds from now; a number not above zero lifts. -/
def set (c : Cooldowns) (key : String) (timeout now : Int) : Cooldowns :=
  if timeout ≤ 0 then c.lift key else c.setEnd key (Epoch.add now timeout)

/-- The second at which the suppression of a server ends, zero if it has none. -/
def endOf (c : Cooldowns) (key : String) : Int := (c.ends.get? key).getD 0

/-- The end that stands for a server lies in the future. -/
def isSuppressed (c : Cooldowns) (key : String) (now : Int) : Bool := now < c.endOf key

/-- The servers whose second has come. -/
def expired (c : Cooldowns) (now : Int) : List String :=
  (c.ends.entries.filter (·.2 ≤ now)).map Prod.fst

/-- Remove the entries whose second has come. -/
def dropExpired (c : Cooldowns) (now : Int) : Cooldowns := ⟨c.ends.filter fun _ second => now < second⟩

def nextEnd? (c : Cooldowns) : Option Int := c.ends.values.min?

def size (c : Cooldowns) : Nat := c.ends.size

def isEmpty (c : Cooldowns) : Bool := c.ends.isEmpty

end Cooldowns

end RelayQuality
