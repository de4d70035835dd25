import Chronicle.Command.Application
import Chronicle.Command.LogFilter
/-!
# The program

What a command leaves behind: an exit code, its output, the first line of its report, and how many
warnings were given. Warnings depend on the log filter that the environment asks for. What is
written to the debug log is left out, and so is all of a report behind its first line.
-/

namespace Chronicle

/-- The traces of a command. -/
structure Traces where
  code : Nat
  output : List UInt8 := []
  /-- The first line of what is reported as an error. -/
  report : Option String := none
  requests : List (Endpoint × Request) := []
  warnings : Nat := 0

namespace Program

/-- The name and the version of the program. -/
def title : String := "logweave 0.1.0"

/-- Where the debug log is. -/
def debugLog : String := "/tmp/logweave-debug.log"

/-- How many warnings are given. With a debug log none are: they go there. -/
def warnings (h : Host) (call : Invocation) (u : Upshot) : Nat :=
  let filter := LogFilter.ofText (h.environment.get? "RUST_LOG")
  let count (e : LogEvent) (times : Nat) : Nat := if filter.admitsWarning e then times else 0
  if call.debug then 0 else count .unreadable u.unreadable + count .lost u.lost

/-- The first line of a text. -/
def firstLine (s : String) : String := String.ofList (s.toList.takeWhile (· != '\n'))

/-- The first line of a report. -/
def reportOf (t : Trouble) : Option String :=
  match t.causes with
  | .said text :: _ => some (firstLine text)
  | _ => none

/-- The exit code of a command that fails. One that breaks off has a code of its own. -/
def exitCode : Trouble → Nat
  | .run .noQueue => 101
  | _ => 1

/-- Colours are left out if the environment says so. -/
def withEnvironment (h : Host) : Host :=
  { h with muted := (h.environment.get? "NO_COLOR").any (· != "") }

/-- Runs a command. There are no traces if it does not end. A debug log that is wanted is opened
before anything else is done. -/
def run (h : Host) (args : List String) : Option Traces :=
  match Invocation.read args with
  | .error .version => some { code := 0, output := Utf8.bytes (title ++ "\n") }
  | .error .help => some { code := 0 }
  | .error _ => some { code := 2 }
  | .ok call =>
    if call.debug && !h.opensLog then some { code := 1, report := some ("open " ++ debugLog) }
    else
      let u := Application.run (withEnvironment h) call
      let traces : Traces :=
        { code := 0, output := u.output, requests := u.requests, warnings := warnings h call u }
      u.result.map fun
        | .ok () => traces
        | .error t => { traces with code := exitCode t, report := reportOf t }

end Program

end Chronicle
