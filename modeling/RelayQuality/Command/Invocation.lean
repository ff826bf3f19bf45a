import RelayQuality.Command.HopPair
import RelayQuality.Config
import RelayQuality.Globe
import RelayQuality.Number.Spelled

/-!
# What a command line asks for

An `Invocation` holds the values that were given. `Invocation.take` adds one of them and `Invocation.apply`
puts them over the settings of a file.
-/

namespace RelayQuality

/-- Why a command line asks for nothing that can be done. -/
inductive Usage where
  | missing
  | unknown
  /-- An argument lacks its value, or a path is empty. -/
  | noValue
  /-- A value is none of those that its argument takes. -/
  | badValue
  /-- An argument that may be given once is given twice. -/
  | repeated
  /-- An argument without value is given one. -/
  | spareValue
  | help
  | version
deriving DecidableEq, Repr, Inhabited

inductive Valued where
  | catalog
  | config
  | logLevel
  | latitude
  | longitude
  | country
  | protocol
  | port
  | timeout
  | parallel
  | multihop
  | exportTo
deriving DecidableEq, Repr, Inhabited

inductive Switch where
  | logJson
  | json
  | watch
  | help
  | version
deriving DecidableEq, Repr, Inhabited

structure Invocation where
  catalog : Option String := none
  config : Option String := none
  logLevel : Option String := none
  logJson : Bool := false
  latitude : Option Float := none
  longitude : Option Float := none
  country : Option String := none
  protocol : Option Protocol := none
  port : Option Nat := none
  /-- The milliseconds to wait for an answer. -/
  timeout : Option Nat := none
  parallel : Option Nat := none
  multihop : List HopPair := []
  json : Bool := false
  exportTo : Option String := none
  watch : Bool := false
deriving Inhabited

namespace Invocation

/-! ### Values -/

def path (text : String) : Except Usage String := if text.isEmpty then .error .noValue else .ok text

/-- A value that was read, or else no value of the argument. -/
def valid {α : Type} : Option α → Except Usage α
  | some x => .ok x
  | none => .error .badValue

def port? (text : String) : Option Nat :=
  ((Spelled.integer? text).filter fun n => 0 ≤ n && n ≤ 65535).map Int.toNat

def store (i : Invocation) (a : Valued) (text : String) : Except Usage Invocation := do
  match a with
  | .catalog => return { i with catalog := some (← path text) }
  | .config => return { i with config := some (← path text) }
  | .logLevel => return { i with logLevel := some text }
  | .latitude => return { i with latitude := some (← valid (Spelled.double? text)) }
  | .longitude => return { i with longitude := some (← valid (Spelled.double? text)) }
  | .country => return { i with country := some text }
  | .protocol => return { i with protocol := some (← valid (Protocol.ofText text).toOption) }
  | .port => return { i with port := some (← valid (port? text)) }
  | .timeout => return { i with timeout := some (← valid (Spelled.count? text)) }
  | .parallel => return { i with parallel := some (← valid (Spelled.count? text)) }
  | .multihop => return { i with multihop := i.multihop ++ [← valid (HopPair.ofText text).toOption] }
  | .exportTo => return { i with exportTo := some (← path text) }

/-- An argument that may be given once has its value. -/
def isTaken (i : Invocation) : Valued → Bool
  | .catalog => i.catalog.isSome
  | .config => i.config.isSome
  | .logLevel => i.logLevel.isSome
  | .latitude => i.latitude.isSome
  | .longitude => i.longitude.isSome
  | .country => i.country.isSome
  | .protocol => i.protocol.isSome
  | .port => i.port.isSome
  | .timeout => i.timeout.isSome
  | .parallel => i.parallel.isSome
  | .multihop => false
  | .exportTo => i.exportTo.isSome

/-- Take an argument with its value. A missing value counts before a second value, and that before a
wrong one. -/
def take (i : Invocation) (a : Valued) (value : Option String) : Except Usage Invocation :=
  match value with
  | none => .error .noValue
  | some text => if i.isTaken a then .error .repeated else i.store a text

def turn (i : Invocation) (s : Switch) : Except Usage Invocation :=
  match s with
  | .logJson => if i.logJson then .error .repeated else .ok { i with logJson := true }
  | .json => if i.json then .error .repeated else .ok { i with json := true }
  | .watch => if i.watch then .error .repeated else .ok { i with watch := true }
  | .help => .error .help
  | .version => .error .version

/-- The invocation, if it has the catalog, and both coordinates or none. -/
def completed (i : Invocation) : Except Usage Invocation :=
  if i.catalog.isNone || i.latitude.isSome != i.longitude.isSome then .error .missing else .ok i

/-! ### Use -/

def apply (i : Invocation) (c : Config) : Config :=
  { c with
    protocol := i.protocol.getD c.protocol
    tcpPort := i.port.getD c.tcpPort
    probeTimeout := (i.timeout.map Duration.ofMillis).getD c.probeTimeout
    maxParallel := i.parallel.getD c.maxParallel
    logging.level := i.logLevel.getD c.logging.level
    logging.format := if i.logJson then "json" else c.logging.format }

/-- The observer, if there are coordinates; the country may be left out. -/
def observer? (i : Invocation) : Option Observer :=
  match i.latitude, i.longitude with
  | some latitude, some longitude => some ⟨⟨latitude, longitude⟩, i.country.getD ""⟩
  | _, _ => none

end Invocation

end RelayQuality
