import RelayQuality.Catalog
import RelayQuality.Config
import RelayQuality.Cooldowns
import RelayQuality.Samples

/-!
# Rating cities

A grade starts from redundancy and locality (`Rating.base`) and rises with measured latency
(`Rating.grade`). For a pair of hops, nearness takes the place of latency (`Rating.multiHop`).
-/

namespace RelayQuality

/-- What earns a city its steps. -/
structure Rating where
  /-- The active relays that earn a step. -/
  threshold : Nat
  /-- The mean round trip, in milliseconds, below which a fast city earns a second step. -/
  excellent : Nat
deriving DecidableEq, Repr, Inhabited

/-- Two texts are the same but for the case of the letters A to Z. -/
def sameIgnoringCase (a b : String) : Bool := a.toList.map Char.toLower == b.toList.map Char.toLower

namespace Rating

def ofConfig (c : Config) : Rating := ⟨c.redundancyThreshold, c.excellentLatency⟩

def activeKeys (keys : List String) (cooldowns : Cooldowns) (now : Int) : List String :=
  keys.filter fun key => !cooldowns.isSuppressed key now

/-- The origin is known and is the country of the city. -/
def isLocal (city : City) (origin : String) : Bool := !origin.isEmpty && sameIgnoringCase origin city.country

/-- The grade from the number of active relays and the country of origin alone. -/
def base (r : Rating) (city : City) (origin : String) (cooldowns : Cooldowns) (now : Int) : Grade :=
  let active := (activeKeys city.keys cooldowns now).length
  if active = 0 then .unavailable
  else (Grade.poor.promoteIf (r.threshold ≤ active)).promoteIf (isLocal city origin)

/-- The base grade, raised where the city is faster than the mean of all samples, and raised once more
where it is excellent as well. -/
def grade (r : Rating) (city : City) (origin : String) (samples : Samples) (cooldowns : Cooldowns)
    (now : Int) : Grade :=
  let mean := samples.meanOf city.keys
  let start := r.base city origin cooldowns now
  if start ≤ .unavailable ∨ mean = 0 then start
  else
    let faster : Bool := mean < samples.average
    (start.promoteIf faster).promoteIf (faster && mean < r.excellent)

/-- The city with its mean and its grade brought up to date. -/
def updated (r : Rating) (origin : String) (samples : Samples) (cooldowns : Cooldowns) (now : Int)
    (city : City) : City :=
  { city with
    latency := samples.meanOf city.keys
    grade := r.grade city origin samples cooldowns now }

/-- The grade of leaving through one city after entering through another. Cities that the catalog does
not have give `noData`. -/
def multiHop (r : Rating) (catalog : Catalog) (exit entry : String × String) (cooldowns : Cooldowns)
    (now : Int) : Grade :=
  match catalog.cityNamed? exit.1 exit.2, catalog.cityNamed? entry.1 entry.2 with
  | some exitCity, some entryCity =>
    let start := r.base exitCity entry.1 cooldowns now
    if start ≤ .unavailable then start else start.promoteIf (Globe.near exitCity.place entryCity.place)
  | _, _ => .noData

end Rating

end RelayQuality
