import RelayQuality.Fault
import RelayQuality.Toml.Printer
import RelayQuality.Toml.Reader

/-!
# Settings files

`Config.ofText` reads settings, of which each may be left out, and `Config.document` writes them all.
A length of time is written as its whole milliseconds.
-/

namespace RelayQuality

namespace Config.Document

open Toml (Value Setting)

/-! ### Reading -/

def boolean? : Value → Option Bool
  | .boolean b => some b
  | _ => none

def text? : Value → Option String
  | .string text => some text
  | _ => none

def count? (limit : Nat) : Value → Option Nat
  | .integer n => if 0 ≤ n ∧ n ≤ limit then some n.toNat else none
  | _ => none

def duration? (v : Value) : Option Duration := (count? Millis.last v).map Duration.ofMillis

def isHollow : Value → Bool
  | .array [] => true
  | .table [] => true
  | _ => false

/-- A protocol: its word, or a table with the word as its only name and nothing under it. -/
def protocol? : Value → Option Protocol
  | .string word => Protocol.ofWord? word
  | .table [(word, content)] => if isHollow content then Protocol.ofWord? word else none
  | _ => none

/-- The value under a name, or else what holds without it. -/
def setting {α : Type} (members : List (String × Value)) (name : String) (read : Value → Option α)
    (otherwise : α) : Option α :=
  match members.find? (·.1 == name) with
  | some (_, v) => read v
  | none => some otherwise

/-- The value at a place, or else what holds without it. -/
def settingAt {α : Type} (items : List Value) (place : Nat) (read : Value → Option α)
    (otherwise : α) : Option α :=
  match items[place]? with
  | some v => read v
  | none => some otherwise

/-- Settings of the log, by name or in order. -/
def logging? : Value → Option Logging
  | .table members => do
    some
      { level := ← setting members "level" text? ({} : Logging).level
        format := ← setting members "format" text? ({} : Logging).format
        color := ← setting members "color" boolean? ({} : Logging).color }
  | .array items => do
    some
      { level := ← settingAt items 0 text? ({} : Logging).level
        format := ← settingAt items 1 text? ({} : Logging).format
        color := ← settingAt items 2 boolean? ({} : Logging).color }
  | _ => none

/-- All settings. Names that are none of them are ignored. -/
def config? (members : List (String × Value)) : Option Config := do
  let d : Config := {}
  some
    { enabled := ← setting members "enabled" boolean? d.enabled
      probeTimeout := ← setting members "probe_timeout" duration? d.probeTimeout
      maxParallel := ← setting members "max_parallel" (count? Millis.last) d.maxParallel
      maxRetries := ← setting members "max_retries" (count? 255) d.maxRetries
      refreshInterval := ← setting members "refresh_interval" duration? d.refreshInterval
      initialDelay := ← setting members "initial_delay" duration? d.initialDelay
      progressDelay := ← setting members "progress_delay" duration? d.progressDelay
      redundancyThreshold := ← setting members "redundancy_threshold" (count? Millis.last) d.redundancyThreshold
      excellentLatency := ← setting members "excellent_latency_ms" (count? Millis.last) d.excellentLatency
      protocol := ← setting members "protocol" protocol? d.protocol
      tcpPort := ← setting members "tcp_port" (count? 65535) d.tcpPort
      logging := ← setting members "logging" logging? d.logging }

/-! ### Writing -/

/-- A length of time as it is written. -/
def millisSetting (d : Duration) : Setting := .integer (Millis.wrap d.wholeMillis)

def ownSettings (c : Config) : List (String × Setting) :=
  [("enabled", .boolean c.enabled), ("probe_timeout", millisSetting c.probeTimeout),
    ("max_parallel", .integer c.maxParallel), ("max_retries", .integer c.maxRetries),
    ("refresh_interval", millisSetting c.refreshInterval), ("initial_delay", millisSetting c.initialDelay),
    ("progress_delay", millisSetting c.progressDelay), ("redundancy_threshold", .integer c.redundancyThreshold),
    ("excellent_latency_ms", .integer c.excellentLatency), ("protocol", .text c.protocol.word),
    ("tcp_port", .integer c.tcpPort)]

def loggingSettings (l : Logging) : List (String × Setting) :=
  [("level", .text l.level), ("format", .text l.format), ("color", .boolean l.color)]

end Config.Document

namespace Config

open Document in
/-- The settings in a text, if they break no limit. -/
def ofText (text : String) : Except Fault Config :=
  match Toml.read? text >>= config? with
  | none => .error (.config "Failed to parse config")
  | some c => c.checked

open Document in
def document (c : Config) : Except Fault String :=
  match Toml.assignments? (ownSettings c), Toml.assignments? (loggingSettings c.logging) with
  | some own, some logging => .ok (String.ofList (own ++ Toml.headerLine "logging" ++ logging))
  | _, _ => .error (.config "Failed to serialize config")

end Config

end RelayQuality
