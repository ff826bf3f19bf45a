import RelayQuality.Config

/-!
# Faults

`Fault` lists what can go wrong, and `Fault.message` is the one place that words it.
-/

namespace RelayQuality

inductive Fault where
  | io (text : String)
  | config (text : String)
  | invalidConfig (text : String)
  | catalog (text : String)
  | socket (text : String)
  | json (text : String)
  | noRuntime (user : String)
  | serviceClosed
deriving DecidableEq, Repr, Inhabited

namespace Fault

def message : Fault → String
  | io text => "IO error: " ++ text
  | config text => "configuration error: " ++ text
  | invalidConfig text => "invalid configuration: " ++ text
  | catalog text => "catalog error: " ++ text
  | socket text => "socket error: " ++ text
  | json text => "JSON error: " ++ text
  | noRuntime user => "no tokio runtime available for " ++ user
  | serviceClosed => "latency service has shut down"

/-- Another transport may still work. -/
def allowsFallback : Fault → Bool
  | socket _ => true
  | io _ => true
  | _ => false

def ofViolation (v : Config.Violation) : Fault := invalidConfig v.text

end Fault

namespace Config

def checked (c : Config) : Except Fault Config :=
  match c.violation? with
  | none => .ok c
  | some v => .error (.ofViolation v)

end Config

end RelayQuality
