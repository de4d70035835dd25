import Chronicle.Command.Program
/-!
# The command

Reads the arguments, the environment and the settings file, runs the program and leaves its traces.
No connection to a daemon is opened from here, so every endpoint is out of reach.
-/

namespace Chronicle

/-- The variables of the process, as far as the system tells them. -/
def readVariables : IO Variables := do
  match ← (IO.FS.readBinFile "/proc/self/environ").toBaseIO with
  | .ok block => return Variables.ofBlock block.toList
  | .error _ => return []

/-- The files under some paths, as far as they can be read. -/
def readFiles (paths : List Path) : IO Files := do
  let found ← paths.filterMapM fun path => do
    match ← (IO.FS.readBinFile (String.ofList path)).toBaseIO with
    | .ok content => return some (path, content.toList)
    | .error _ => return none
  return fun path => found.lookup path

/-- The settings file a command line names. -/
def namedSettings (args : List String) : Option String :=
  match Invocation.read args with
  | .ok call => call.config
  | .error _ => none

/-- Opens the debug log if the command line wants one. Tells whether that works. -/
def openLog (args : List String) : IO Bool := do
  match Invocation.read args with
  | .ok { debug := true, .. } =>
    match ← (IO.FS.Handle.mk Program.debugLog .append).toBaseIO with
    | .ok _ => return true
    | .error _ => return false
  | _ => return true

/-- Where the command runs. -/
def readHost (args : List String) (terminal : Bool) : IO Host := do
  let environment ← readVariables
  let files ← readFiles (settingsPath environment (namedSettings args)).candidates
  return {
    files, environment, terminal
    opensLog := ← openLog args
    obstacle := fun _ => some .networkUnreachable
    start := ⟨0, 0⟩
    horizon := 0 }

/-- Writes what a command leaves behind, and gives its exit code. -/
def leave (t : Traces) : IO UInt32 := do
  let output ← IO.getStdout
  output.write ⟨t.output.toArray⟩
  output.flush
  if let some report := t.report then IO.eprintln ("Error: " ++ report)
  return UInt32.ofNat t.code

end Chronicle

/-- Runs the command. -/
def main (args : List String) : IO UInt32 := do
  let host ← Chronicle.readHost args (← (← IO.getStdout).isTty)
  match Chronicle.Program.run host args with
  | some traces => Chronicle.leave traces
  | none => return 1
