import RelayQuality.Time.Duration

/-!
# Settings

`Config` holds every setting with its default. `Config.check` names the first limit that settings
break.
-/

namespace RelayQuality

inductive Protocol where
  /-- Echo requests where the system allows them, else handshakes. -/
  | auto
  | icmp
  | tcp
deriving DecidableEq, Repr, Inhabited

namespace Protocol

def word : Protocol → String
  | auto => "auto"
  | icmp => "icmp"
  | tcp => "tcp"

/-- The protocol that a word in small letters stands for. -/
def ofWord? : String → Option Protocol
  | "auto" => some auto
  | "icmp" => some icmp
  | "tcp" => some tcp
  | _ => none

/-- A text with the letters A to Z made small. -/
def lowered (text : String) : String := String.ofList (text.toList.map Char.toLower)

/-- The protocol that a text names in any mixture of letters, else the words that refuse it. -/
def ofText (text : String) : Except String Protocol :=
  match ofWord? (lowered text) with
  | some p => .ok p
  | none => .error ("unknown probe protocol: " ++ lowered text)

theorem ofWord?_word (p : Protocol) : ofWord? p.word = some p := by cases p <;> rfl

end Protocol

structure Logging where
  level : String := "info"
  /-- The form of a line, `text` or `json`. -/
  format : String := "text"
  color : Bool := true
deriving DecidableEq, Repr, Inhabited

structure Config where
  /-- Probe and grade at all. -/
  enabled : Bool := true
  probeTimeout : Duration := .ofMillis 5000
  /-- The most probes in flight at once. -/
  maxParallel : Nat := 8
  /-- The retries of a probe after its first transmission. -/
  maxRetries : Nat := 2
  /-- The time from the end of a sweep to the next. -/
  refreshInterval : Duration := .ofMillis 1800000
  /-- The time from activation to the first sweep. -/
  initialDelay : Duration := .ofMillis 1000
  /-- The time for which changes are collected into one notice. -/
  progressDelay : Duration := .ofMillis 500
  /-- The active relays that earn a city a step. -/
  redundancyThreshold : Nat := 3
  /-- Round trips below this, in milliseconds, can earn a city a second step. -/
  excellentLatency : Nat := 30
  protocol : Protocol := .auto
  tcpPort : Nat := 80
  logging : Logging := {}
deriving DecidableEq, Repr, Inhabited

namespace Config

def parallelCeiling : Nat := 8

def retryCeiling : Nat := 2

inductive Violation where
  | parallel
  | retries
  | probeTimeout
  | refreshInterval
  | tcpPort
deriving DecidableEq, Repr

namespace Violation

def text : Violation → String
  | parallel => "max_parallel must be between 1 and " ++ toString parallelCeiling
  | retries => "max_retries must be at most " ++ toString retryCeiling
  | probeTimeout => "probe_timeout must be non-zero"
  | refreshInterval => "refresh_interval must be non-zero"
  | tcpPort => "tcp_port must be non-zero"

end Violation

def violation? (c : Config) : Option Violation :=
  if c.maxParallel = 0 ∨ parallelCeiling < c.maxParallel then some .parallel
  else if retryCeiling < c.maxRetries then some .retries
  else if c.probeTimeout.isZero then some .probeTimeout
  else if c.refreshInterval.isZero then some .refreshInterval
  else if c.tcpPort = 0 then some .tcpPort
  else none

end Config

end RelayQuality
