import Chronicle.Docker.Phase
import Chronicle.Json.Fields
import Chronicle.Time.Stamp
/-!
# Containers

What the daemon tells about a container. Whatever it leaves out is empty or false.
-/

namespace Chronicle

/-- What is known of a container. -/
structure Container where
  status : String := ""
  running : Bool := false
  startedAt : String := ""
  /-- Its output is that of a terminal, not frames. -/
  terminal : Bool := false
deriving DecidableEq, Repr

namespace Container

open Json

/-- The fields under `State`. -/
def stateFields : List (RecordField Container) :=
  [⟨"Status", fun c => do return { c with status := ← wantText }⟩,
   ⟨"Running", fun c => do return { c with running := ← wantBoolean }⟩,
   ⟨"StartedAt", fun c => do return { c with startedAt := ← wantText }⟩]

/-- The fields under `Config`. -/
def configFields : List (RecordField Container) :=
  [⟨"Tty", fun c => do return { c with terminal := ← wantBoolean }⟩]

/-- The fields of an answer. -/
def fields : List (RecordField Container) :=
  [⟨"State", record stateFields⟩, ⟨"Config", record configFields⟩]

/-- Reads what the daemon tells about a container. -/
def read (body : List UInt8) : Except Defect Container := whole (record fields {}) body

/-- What the container is doing. -/
def phase (c : Container) : Phase := Phase.ofStatus c.status

/-- How the start time of a container begins that never ran. -/
def neverStarted : String := "0001-01-01"

/-- Has the container ever run? -/
def hasStarted (c : Container) : Bool :=
  c.startedAt != "" && !neverStarted.toList.isPrefixOf c.startedAt.toList

/-- When the container last started, if it has and the time can be read. -/
def started (c : Container) : Option Instant :=
  if c.hasStarted then Stamp.readRfc3339? c.startedAt.toList else none

end Container

end Chronicle
