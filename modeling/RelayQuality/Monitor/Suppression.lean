import RelayQuality.Monitor.Sweeping

/-!
# Cooldowns of the monitor

A cooldown takes relays out of the rating for a time, one by one or a city at once. The alarm follows
the soonest end.
-/

namespace RelayQuality.Monitor

/-- Suppress one relay for some seconds; a number not above zero lifts. -/
def setCooldown (m : Monitor) (now : Reading) (key : String) (timeout : Int) : Monitor :=
  ({ m with cooldowns := m.cooldowns.set key timeout now.epoch }.rerateKey now key).armCooldown now

/-- Lift the suppression of every relay of the city at a position. -/
def liftCity (m : Monitor) (now : Reading) (p : Position) (city : City) : Monitor :=
  { m with cooldowns := city.keys.foldl Cooldowns.lift m.cooldowns }.rerateCity now p

/-- Suppress every relay of the city at a position, which leaves none active. -/
def suppressCity (m : Monitor) (now : Reading) (p : Position) (city : City) (timeout : Int) : Monitor :=
  { m with
    cooldowns := city.keys.foldl (fun c key => c.setEnd key (Epoch.add now.epoch timeout)) m.cooldowns
    catalog := m.catalog.modifyCity p fun city => { city with grade := .unavailable }
  }.markChanged now.millis

/-- The city that a country code and a city code name, with its position. -/
def cityWithCode? (m : Monitor) (country code : String) : Option (Position × City) := do
  let p ← m.catalog.findCode? country code
  let city ← m.catalog.city? p
  some (p, city)

/-- Suppress or lift every relay of a city. The result begins with whether there is such a city. -/
def setCityCooldown (m : Monitor) (now : Reading) (country code : String) (timeout : Int) : Bool × Monitor :=
  match m.cityWithCode? country code with
  | none => (false, m)
  | some (p, city) =>
    let changed := if timeout ≤ 0 then m.liftCity now p city else m.suppressCity now p city timeout
    (true, changed.armCooldown now)

/-- Lift the suppressions whose second has come, and rate the cities of their relays again. -/
def clearExpiredCooldowns (m : Monitor) (now : Reading) : Monitor :=
  let lifted := { m with cooldowns := m.cooldowns.dropExpired now.epoch }
  ((m.cooldowns.expired now.epoch).foldl (fun m key => m.rerateKey now key) lifted).armCooldown now

/-- The grade of a pair of hops, each given by country code and city name. -/
def multiHop (m : Monitor) (now : Reading) (exit entry : String × String) : Grade :=
  m.rating.multiHop m.catalog exit entry m.cooldowns now.epoch

end RelayQuality.Monitor
