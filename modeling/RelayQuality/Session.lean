import RelayQuality.Command.Arguments
import RelayQuality.Report
import RelayQuality.Storage
import RelayQuality.Timeline

/-!
# One run of the program

`Session.run` is what the program does for an invocation: settings, one sweep over the catalog, the report.
It is given what it reads, and its `Outcome` says what to print and to write. `Session.among` runs it over
files in memory.
-/

namespace RelayQuality

structure Written where
  directory : String
  name : String
  content : String
deriving DecidableEq, Repr, Inhabited

/-- What a run leaves to be done. -/
structure Outcome where
  /-- The number that the run ends with. -/
  status : Nat
  output : String := ""
  /-- What it says about its failure. -/
  complaint : String := ""
  written : Option Written := none
  /-- The milliseconds until the next report, if the program goes on. -/
  again : Option Nat := none
deriving DecidableEq, Repr, Inhabited

namespace Outcome

def failed (words : String) (output : String) : Outcome := { status := 1, output, complaint := "Error: " ++ words }

/-- The outcome once it is known whether its file could be written. -/
def settled (o : Outcome) (writing : Except String Unit) : Outcome :=
  match writing with
  | .ok () => { o with written := none }
  | .error reason => failed reason o.output

def carriedOut (o : Outcome) (f : Files) : Outcome × Files :=
  match o.written with
  | none => (o, f)
  | some w =>
    match f.write w.directory w.name w.content with
    | .ok f => (o.settled (.ok ()), f)
    | .error reason => (o.settled (.error reason), f)

end Outcome

namespace Session

def version : String := "relayscore 0.3.2"

def usage : String := "Usage: relayscore [OPTIONS] <CATALOG>"

/-- Where settings are read from unless a path is given, below the home directory. -/
def defaultSettings : String := ".config/relayscore/config.toml"

/-- The outcome of a command line that asks for nothing that can be done. -/
def refused (u : Usage) : Outcome :=
  match u with
  | .help => { status := 0, output := usage ++ "\n" }
  | .version => { status := 0, output := version ++ "\n" }
  | _ => { status := 2, complaint := usage }

/-- The settings of a run. A path that was given has to lead to settings, the default path need not. -/
def settings (i : Invocation) (s : Source) : Except Fault Config :=
  if i.config.isNone && !s.isThere then .ok {} else Config.load s

/-- The monitor after its first sweep, in which no probe is answered. -/
def swept (i : Invocation) (c : Config) (catalog : Catalog) (now : Int) : Timeline :=
  let t : Timeline := { monitor := .ofConfig c catalog, clock := { base := now } }
  let t := t.launch .off .foreground
  let t := match i.observer? with
    | some o => t.perform (.setObserver o)
    | none => t
  (t.perform .refresh).finishSweep

def hopLine (t : Timeline) (p : HopPair) : String :=
  "multihop " ++ p.exit.text ++ " via " ++ p.entry.text ++ "  "
    ++ (t.monitor.multiHop t.clock.reading p.exit.names p.entry.names).label ++ "\n"

/-- The report in the form that is asked for, and the pairs of hops. -/
def printed (i : Invocation) (t : Timeline) (r : Report) : String :=
  (if i.json then r.document ++ "\n" else r.table) ++ String.join (i.multihop.map (hopLine t))

def reported (i : Invocation) (c : Config) (catalog : Catalog) (now : Timestamp) : Outcome :=
  let t := swept i c catalog now.secs
  let r := (Report.ofCatalog now t.monitor.catalog t.monitor.samples.average).sorted
  { status := 0
    output := printed i t r
    written := i.exportTo.map fun directory => ⟨directory, r.fileName, r.document⟩
    again := if i.watch then some c.refreshInterval.millis else none }

/-- What the program does for an invocation, with what its settings and its catalog lead to. -/
def run (i : Invocation) (settingsSource catalogSource : Source) (now : Timestamp) : Outcome :=
  match settings i settingsSource with
  | .error f => .failed f.message ""
  | .ok c =>
    match (i.apply c).checked with
    | .error f => .failed f.message ""
    | .ok c =>
      match Catalog.load catalogSource with
      | .error _ => .failed ("loading catalog " ++ i.catalog.getD "") ""
      | .ok catalog => reported i c catalog now

/-- What the program does for a command line, before its file is written. -/
def outcome (f : Files) (arguments : List String) (now : Timestamp) : Outcome :=
  match Invocation.ofArguments arguments with
  | .error u => refused u
  | .ok i => run i (f.read (i.config.getD defaultSettings)) (f.read (i.catalog.getD "")) now

/-- One run over files in the working directory, which is also the home directory. -/
def among (f : Files) (arguments : List String) (now : Timestamp) : Outcome × Files :=
  (outcome f arguments now).carriedOut f

end Session

end RelayQuality
