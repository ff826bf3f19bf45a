import RelayQuality.Address
import RelayQuality.Globe
import RelayQuality.Grade
import RelayQuality.KeyMap

/-!
# The catalog of relays

A `Catalog` is a tree of countries, cities and relays. `ofCountries` writes the code of each country
into its cities. A relay is found through the last city that lists its key, a city through the first
country with the wanted code. The `index` is a map of the cities by key.
-/

namespace RelayQuality

/-- A server that can be probed. -/
structure Relay where
  key : String
  address : Address
deriving DecidableEq, Repr, Inhabited

/-- A city with what is known of its relays together. -/
structure City where
  code : String
  name : String
  /-- The code of the country that the city belongs to. -/
  country : String := ""
  place : Place
  relays : List Relay
  /-- The mean round trip of relays that answered, zero if none did. -/
  latency : Nat := 0
  grade : Grade := .noData
deriving DecidableEq, Inhabited

structure Country where
  code : String
  name : String
  cities : List City
deriving DecidableEq, Inhabited

/-- The place of a city in the tree. -/
structure Position where
  country : Nat
  city : Nat
deriving DecidableEq, Repr, Inhabited

/-- The tree of countries. -/
structure Catalog where
  countries : List Country := []
deriving DecidableEq, Inhabited

namespace City

def keys (c : City) : List String := c.relays.map Relay.key

end City

namespace Country

/-- The country with its code in each of its cities. -/
def stamped (c : Country) : Country :=
  { c with cities := c.cities.map fun city => { city with country := c.code } }

end Country

namespace Catalog

def ofCountries (countries : List Country) : Catalog := ⟨countries.map Country.stamped⟩

def cities (c : Catalog) : List City := c.countries.flatMap Country.cities

/-- Every key in order, as often as it is listed. -/
def keys (c : Catalog) : List String := c.cities.flatMap City.keys

def city? (c : Catalog) (p : Position) : Option City := do
  let country ← c.countries[p.country]?
  country.cities[p.city]?

/-- Every position with its city, in catalog order. -/
def positioned (c : Catalog) : List (Position × City) :=
  c.countries.zipIdx.flatMap fun (country, i) => country.cities.zipIdx.map fun (city, j) => (⟨i, j⟩, city)

/-- The position of its city for each key, written city by city. -/
def index (c : Catalog) : KeyMap Position :=
  c.positioned.foldl (fun index entry => index.insertAll entry.2.keys entry.1) .empty

/-- The number of different keys. -/
def relayCount (c : Catalog) : Nat := c.index.size

/-- The last position whose city lists a key. -/
def positionOf? (c : Catalog) (key : String) : Option Position :=
  (c.positioned.reverse.find? fun entry => entry.2.keys.contains key).map Prod.fst

def relay? (c : Catalog) (key : String) : Option Relay := do
  let p ← c.positionOf? key
  let city ← c.city? p
  city.relays.find? (·.key == key)

/-- The first city to pass a test in the first country with a code. -/
def findIn? (c : Catalog) (code : String) (test : City → Bool) : Option Position := do
  let i ← c.countries.findIdx? (·.code == code)
  let country ← c.countries[i]?
  let j ← country.cities.findIdx? test
  some ⟨i, j⟩

/-- The position of a city by country code and city name. -/
def findName? (c : Catalog) (country name : String) : Option Position := c.findIn? country (·.name == name)

def findCode? (c : Catalog) (country code : String) : Option Position := c.findIn? country (·.code == code)

def cityNamed? (c : Catalog) (country name : String) : Option City := c.findName? country name >>= c.city?

def modifyCity (c : Catalog) (p : Position) (change : City → City) : Catalog :=
  ⟨c.countries.modify p.country fun country => { country with cities := country.cities.modify p.city change }⟩

def mapCities (c : Catalog) (change : City → City) : Catalog :=
  ⟨c.countries.map fun country => { country with cities := country.cities.map change }⟩

/-- No key is listed twice. -/
def KeysDistinct (c : Catalog) : Prop := c.keys.Nodup

/-- The text of a catalog that lists keys twice. -/
def duplicateText (c : Catalog) : String :=
  "duplicate server public keys (" ++ toString c.keys.length ++ " servers, " ++ toString c.relayCount ++ " unique)"

/-- The catalog, if it lists no key twice, else the words that say so. -/
def checked (c : Catalog) : Except String Catalog :=
  if c.keys.length = c.relayCount then .ok c else .error c.duplicateText

end Catalog

end RelayQuality
