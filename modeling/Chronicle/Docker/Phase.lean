/-!
# Phases

What a container is doing, as the daemon names it.
-/

namespace Chronicle

/-- The phases of a container's life. -/
inductive Phase where
  | created | running | paused | restarting | removing | exited | dead
  /-- There is no such container. -/
  | missing
  /-- The daemon names a phase that is not known. -/
  | unknown
deriving DecidableEq, Repr

namespace Phase

/-- The phase a status stands for. -/
def ofStatus : String → Phase
  | "created" => .created
  | "running" => .running
  | "paused" => .paused
  | "restarting" => .restarting
  | "removing" => .removing
  | "exited" => .exited
  | "dead" => .dead
  | _ => .unknown

/-- The name of a phase. -/
def name : Phase → String
  | .created => "Created"
  | .running => "Running"
  | .paused => "Paused"
  | .restarting => "Restarting"
  | .removing => "Removing"
  | .exited => "Exited"
  | .dead => "Dead"
  | .missing => "Missing"
  | .unknown => "Unknown"

end Phase

end Chronicle
