import Chronicle.Command.Gate
import Chronicle.Command.Line
import Chronicle.Docker.Client
import Chronicle.Run.Schedule
import Chronicle.Settings.Load
/-!
# The application

From a command line to printed logs: the settings are loaded, the daemon is found, every service has
to have run, and then the logs are printed.
-/

namespace Chronicle

/-- Where the application runs. -/
structure Host where
  files : Files
  environment : Variables := []
  /-- Why there is no connection to an endpoint, if there is none. -/
  obstacle : Endpoint → Option SystemFault
  daemon : Daemon := {}
  /-- The output is a terminal. -/
  terminal : Bool := false
  /-- Colours are left out of labels. -/
  muted : Bool := false
  /-- The debug log can be opened. -/
  opensLog : Bool := true
  /-- When the application starts. -/
  start : Instant
  /-- Milliseconds until the application is given up. -/
  horizon : Nat

/-- Why the application fails. -/
inductive Trouble where
  | settings (fault : SettingsFault)
  | address (host : String) (fault : Fault)
  | gate (fault : GateFault)
  | run (verdict : Verdict)
deriving DecidableEq, Repr

/-- The texts of a failure, the outermost first. -/
def Trouble.causes : Trouble → List Cause
  | .settings _ => [.said "load configuration", .configuration]
  | .address host fault => .said ("use Docker host " ++ host) :: fault.causes
  | .gate fault => fault.causes
  | .run verdict => verdict.causes

/-- The address of the daemon: the user's, or else the environment's unless it is empty, or else the
settings'. -/
def resolveHost (flag env : Option String) (configured : String) : String :=
  match flag with
  | some host => host
  | none => match env with
    | some host => if host = "" then configured else host
    | none => configured

/-- Do labels have a colour? -/
def useColor (mode : ColorMode) (terminal : Bool) : Bool :=
  match mode with
  | .always => true
  | .never => false
  | .auto => terminal

/-- How the application ended, and what is to be seen of it. -/
structure Upshot where
  /-- None if it did not end. -/
  result : Option (Except Trouble Unit)
  output : List UInt8 := []
  /-- The requests made, in order. -/
  requests : List (Endpoint × Request) := []
  /-- Lines whose stamp could not be read. -/
  unreadable : Nat := 0
  /-- Services that were not followed further. -/
  lost : Nat := 0

namespace Application

/-- How lines look under some settings. -/
def layout (h : Host) (call : Invocation) (s : Settings) : Layout :=
  let plain : Layout := { separator := s.appearance.separator, muted := h.muted }
  if useColor (call.color.getD s.appearance.color) h.terminal then
    plain.withPalette (Palette.ofNames s.appearance.palette)
  else plain

/-- What the run is to do. -/
def plan (h : Host) (call : Invocation) (s : Settings) : Plan Connection where
  backend := Client.backend
  services := call.services
  follow := call.follow
  previous := call.previous
  settle := s.timing.settle
  capacity := queueSlots call.services.length s.timing.queuePerService
  start := h.start

/-- The requests made on a connection, in order. -/
def requestsOf (c : Connection) : List (Endpoint × Request) :=
  c.asked.reverse.map (c.endpoint, ·)

/-- How a run ended. -/
def upshotOf (report : Report) (c : Connection) : Upshot where
  result := report.verdict.map fun
    | .finished => .ok ()
    | verdict => .error (.run verdict)
  output := report.sink.written
  requests := requestsOf c
  unreadable := report.unreadable
  lost := report.lost

/-- Prints the logs of services that have run. -/
def print (h : Host) (call : Invocation) (s : Settings) (c : Connection) : Upshot :=
  match ensureStarted (fun service => (Client.hasStarted service).run) call.services c with
  | (asked, c) => match asked.result with
    | none => { result := none, requests := requestsOf c }
    | some (.error fault) => { result := some (.error (.gate fault)), requests := requestsOf c }
    | some (.ok ()) =>
      let printer : Printer :=
        { layout := layout h call s, window := s.timing.window, follow := call.follow }
      let (report, c) := (plan h call s).run c printer none h.horizon
      upshotOf report c

/-- Runs the application. -/
def run (h : Host) (call : Invocation) : Upshot :=
  match Settings.load h.files h.environment call.config with
  | .error fault => { result := some (.error (.settings fault)) }
  | .ok s =>
    let host := resolveHost call.dockerHost (h.environment.get? "DOCKER_HOST") s.host
    match Endpoint.read host with
    | .error fault => { result := some (.error (.address host fault)) }
    | .ok endpoint =>
      print h call s { endpoint, obstacle := h.obstacle endpoint, daemon := h.daemon }

end Application

end Chronicle
