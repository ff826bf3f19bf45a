import RelayQuality.Session
import Std.Time.DateTime.Timestamp

/-!
# The command line

Reads files, the clock and the arguments, leaves everything else to `Session.run`, and carries out what
it says.
-/

namespace RelayQuality.Program

/-- What an error says about a path. -/
def sourceOf : IO.Error → Source
  | .noFileOrDirectory _ _ _ => .absent
  | .inappropriateType _ code _ => if code = 20 then .underFile else .directory
  | e => .unreadable (toString e)

def sourceAt (path : String) : IO Source := do
  try
    return .text (← IO.FS.readFile path)
  catch e =>
    return sourceOf e

/-- The path of the settings: the one that was given, or the default below the home directory. -/
def settingsPath (i : Invocation) : IO String := do
  match i.config with
  | some path => return path
  | none => return ((← IO.getEnv "HOME").getD ".") ++ "/" ++ Session.defaultSettings

def now : IO Timestamp := do
  let t ← Std.Time.Timestamp.now
  let nanos := t.toNanosecondsSinceUnixEpoch.val
  return ⟨nanos / 1000000000, (nanos % 1000000000).toNat⟩

/-- Write the file of an outcome. -/
def writing (w : Written) : IO (Except String Unit) := do
  try
    IO.FS.writeFile (w.directory ++ "/" ++ w.name) w.content
    return .ok ()
  catch e =>
    match (sourceOf e).content with
    | .error reason => return .error reason
    | .ok _ => return .ok ()

/-- Print an outcome and write its file. The result is the number to end with. -/
def carryOut (o : Outcome) : IO UInt32 := do
  (← IO.getStdout).putStr o.output
  let settled ← match o.written with
    | some w => pure (o.settled (← writing w))
    | none => pure o
  unless settled.complaint.isEmpty do
    (← IO.getStderr).putStrLn settled.complaint
  return UInt32.ofNat settled.status

/-- Run an invocation, and run it again for as long as it asks for that. -/
partial def repeated (i : Invocation) : IO UInt32 := do
  let o := Session.run i (← sourceAt (← settingsPath i)) (← sourceAt (i.catalog.getD "")) (← now)
  let status ← carryOut o
  match o.again with
  | some ms =>
    if status = 0 then
      IO.sleep (UInt32.ofNat ms)
      repeated i
    else return status
  | none => return status

end RelayQuality.Program

def main (arguments : List String) : IO UInt32 :=
  match RelayQuality.Invocation.ofArguments arguments with
  | .error u => RelayQuality.Program.carryOut (RelayQuality.Session.refused u)
  | .ok i => RelayQuality.Program.repeated i
