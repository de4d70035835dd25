import Chronicle.Fault
import Chronicle.Time.Instant
/-!
# Records

`RawRecord` is what a stream hands on: a line, the end of the stream, or its failure. `Entry` is a
record with its time known, ready to be put in order and printed.
-/

namespace Chronicle

/-- One thing read from a service's stream. -/
inductive RawRecord where
  /-- A complete line, its time stamp still in front. -/
  | data (service text : String) (receivedAt : Instant)
  /-- The end of the stream, with a last line that had no newline, if any. -/
  | terminal (service : String) (trailing : Option String) (receivedAt : Instant)
  /-- The stream broke. -/
  | failure (service : String) (fault : Fault)
deriving DecidableEq, Repr

namespace RawRecord

/-- The service the record came from. -/
def service : RawRecord → String
  | data s _ _ => s
  | terminal s _ _ => s
  | failure s _ => s

/-- Is this the record of a broken stream? -/
def isFailure : RawRecord → Bool
  | failure _ _ => true
  | _ => false

end RawRecord

/-- A line to print and the time it belongs to. -/
structure Entry where
  service : String
  text : String
  time : Instant
  /-- A complete line that is printed in place of the label and the text. -/
  wholeLine : Option String := none
deriving DecidableEq, Repr

/-- The notice that a container has exited. -/
def Entry.exitNotice (service : String) (time : Instant) : Entry where
  service := service
  text := "container exited"
  time := time
  wholeLine := some ("The " ++ service ++ " container exited.")

end Chronicle
