import RelayQuality.Catalog
import RelayQuality.Json.Printer
import RelayQuality.Time.Calendar

/-!
# Reports

A `Report` has one row for each city. `Report.sorted` puts the best grade first, then the fastest city;
rows that compare equal keep their order.
-/

namespace RelayQuality

/-- One city of a report. -/
structure Row where
  country : String
  code : String
  name : String
  relays : Nat
  latency : Nat
  grade : Grade
deriving DecidableEq, Repr, Inhabited

namespace Row

def ofCity (c : City) : Row := ⟨c.country, c.code, c.name, c.relays.length, c.latency, c.grade⟩

def level (r : Row) : Int := r.grade.level

def isMeasured (r : Row) : Bool := r.latency != 0

/-- The first row may stand before the second: its grade is higher, or of equal grades only it is
measured, or it is as fast. -/
def le (a b : Row) : Bool :=
  if a.grade = b.grade then
    if a.isMeasured = b.isMeasured then a.latency ≤ b.latency else a.isMeasured
  else b.grade < a.grade

end Row

/-- The grades of all cities at one time. -/
structure Report where
  time : Timestamp
  /-- The mean of all samples. -/
  average : Nat
  rows : List Row
deriving DecidableEq, Repr, Inhabited

namespace Report

def ofCatalog (time : Timestamp) (catalog : Catalog) (average : Nat) : Report :=
  ⟨time, average, catalog.cities.map Row.ofCity⟩

def sorted (r : Report) : Report := { r with rows := r.rows.mergeSort Row.le }

/-! ### As a document -/

def rowLayout (row : Row) : Json.Layout :=
  .object
    [("country", .string row.country), ("code", .string row.code), ("name", .string row.name),
      ("servers", .integer row.relays), ("latency_ms", .integer row.latency), ("score", .string row.grade.word),
      ("level", .integer row.level)]

/-- The report as a document under a time that is given as text. -/
def layout (time : String) (r : Report) : Json.Layout :=
  .object
    [("generated_at", .string time), ("average_latency_ms", .integer r.average),
      ("cities", .array (r.rows.map rowLayout))]

def document (r : Report) : String := (r.layout r.time.text).text

def fileName (r : Report) : String := "relayscore-" ++ r.time.fileStamp ++ ".json"

/-! ### As a table -/

def padRight (width : Nat) (text : String) : String :=
  text ++ String.ofList (List.replicate (width - text.length) ' ')

def padLeft (width : Nat) (text : String) : String :=
  String.ofList (List.replicate (width - text.length) ' ') ++ text

def line (country name relays latency grade : String) : String :=
  padRight 4 country ++ " " ++ padRight 24 name ++ " " ++ padLeft 7 relays ++ " " ++ padLeft 10 latency ++ "  "
    ++ grade ++ "\n"

def latencyText (row : Row) : String := if row.isMeasured then toString row.latency ++ " ms" else "-"

def rowLine (row : Row) : String :=
  line row.country row.name (toString row.relays) (latencyText row) row.grade.label

def table (r : Report) : String :=
  line "CC" "CITY" "SERVERS" "LATENCY" "SCORE" ++ String.join (r.rows.map rowLine)
    ++ "average latency: " ++ toString r.average ++ " ms\n"

end Report

end RelayQuality
