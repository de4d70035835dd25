import Chronicle.Line
import Chronicle.Record
/-!
# Windows

A window is the records of a short while. `Window.entries` gives each record the time it was
written, or else the time it was received; `Window.resolve` puts the entries in order. Entries of
one time keep the order in which their records came.
-/

namespace Chronicle.Window

/-- The message and the time of a text, or the whole text at the time it was received. -/
def stamped (service text : String) (receivedAt : Instant) : Entry :=
  match Line.read text with
  | .ok line => { service, text := line.message, time := line.time }
  | .error _ => { service, text, time := receivedAt }

/-- The entries of one record. A stream that ends gives its last piece of a line, unless it is
empty, and when streams are followed a notice. -/
def entriesOf (follow : Bool) : RawRecord → List Entry
  | .data service text receivedAt => [stamped service text receivedAt]
  | .terminal service trailing receivedAt =>
    (match trailing with
      | some text => if text = "" then [] else [stamped service text receivedAt]
      | none => []) ++
    (if follow then [Entry.exitNotice service receivedAt] else [])
  | .failure _ _ => []

/-- The entries of a window in the order their records came. -/
def entries (follow : Bool) (records : List RawRecord) : List Entry :=
  records.flatMap (entriesOf follow)

/-- The entries of a window by time. -/
def resolve (records : List RawRecord) (follow : Bool) : List Entry :=
  (entries follow records).mergeSort fun a b => a.time.le b.time

/-- A complete line without a usable time is worth a warning. -/
def isUnstamped : RawRecord → Bool
  | .data _ text _ => match Line.read text with
    | .ok _ => false
    | .error _ => true
  | _ => false

end Chronicle.Window
