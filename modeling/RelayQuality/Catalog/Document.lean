import RelayQuality.Catalog
import RelayQuality.Fault
import RelayQuality.Json.Reader

/-!
# Catalog documents

`Catalog.ofText` reads a catalog from a data file. What a document says beside the known fields is
ignored, and a document that lists a key twice is refused.
-/

namespace RelayQuality

open Json (Value)

namespace Catalog.Document

/-- A field that has to be there. -/
def required {α : Type} (read : Value → Option α) : Option Value → Option α
  | some v => read v
  | none => none

/-- A field that may be left out. -/
def optional {α : Type} (fallback : α) (read : Value → Option α) : Option Value → Option α
  | some v => read v
  | none => some fallback

/-- A list of things of one kind. -/
def list? {α : Type} (read : Value → Option α) (v : Value) : Option (List α) := v.items? >>= List.mapM read

/-- A grade: its word, or an object with the word as its only name. -/
def grade? : Value → Option Grade
  | .string (some word) => Grade.ofWord? word
  | .object [(some word, .null)] => Grade.ofWord? word
  | _ => none

def address? (v : Value) : Option Address := v.text? >>= Address.ofText?

def relay? (v : Value) : Option Relay := do
  match ← v.fields? ["public_key", "ipv4_addr_in"] with
  | [key, address] => some ⟨← required Value.text? key, ← required address? address⟩
  | _ => none

def city? (v : Value) : Option City := do
  match ← v.fields? ["code", "name", "country", "latitude", "longitude", "servers", "latency_ms", "score"] with
  | [code, name, country, latitude, longitude, relays, latency, grade] =>
    some
      { code := ← required Value.text? code
        name := ← required Value.text? name
        country := ← optional "" Value.text? country
        place := ⟨← required Value.float? latitude, ← required Value.float? longitude⟩
        relays := ← required (list? relay?) relays
        latency := ← optional 0 Value.count? latency
        grade := ← optional .noData grade? grade }
  | _ => none

def country? (v : Value) : Option Country := do
  match ← v.fields? ["code", "name", "cities"] with
  | [code, name, cities] =>
    some ⟨← required Value.text? code, ← required Value.text? name, ← required (list? city?) cities⟩
  | _ => none

def countries? (v : Value) : Option (List Country) := do
  match ← v.fields? ["countries"] with
  | [countries] => required (list? country?) countries
  | _ => none

end Catalog.Document

namespace Catalog

def ofText (text : String) : Except Fault Catalog :=
  match Json.read? text >>= Document.countries? with
  | none => .error (.json "this is no catalog")
  | some countries => (ofCountries countries).checked.mapError Fault.catalog

end Catalog

end RelayQuality
