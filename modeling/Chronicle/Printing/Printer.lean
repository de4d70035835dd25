import Chronicle.Printing.Layout
import Chronicle.Printing.Sink
import Chronicle.Window
/-!
# The printer

The printer gathers records into a window. The first record of a window sets a deadline, and when
it has passed the window is put in order, written and flushed. `Printer.handle` is one step: what
the printer does about one event. `Printer.next` says which event it sees first when several are
there: cancellation, then the deadline, then the queue.
-/

namespace Chronicle

/-- How a run ends. -/
inductive Verdict where
  | finished
  | noServices
  /-- A queue of the size that is set cannot be made, and the run breaks off. -/
  | noQueue
  | readFailed (service : String) (fault : Fault)
  | outputFailed (fault : OutputFault)
deriving DecidableEq, Repr

/-- The texts of a verdict that is a failure, the outermost first. -/
def Verdict.causes : Verdict → List Cause
  | .finished => []
  | .noServices => [.said "at least one service is required"]
  | .noQueue => []
  | .readFailed service fault => .said ("read logs for " ++ service) :: fault.causes
  | .outputFailed fault => [.said "write logs", .said fault.message]

/-- The first failure among records. -/
def firstFailure? : List RawRecord → Option (String × Fault)
  | [] => none
  | .failure service fault :: _ => some (service, fault)
  | _ :: rest => firstFailure? rest

/-- A printer at work, or done once it has a verdict. -/
structure Printer where
  layout : Layout
  /-- How long a window lasts. -/
  window : Nat
  follow : Bool
  sink : Sink := {}
  /-- The records of the window so far. -/
  buffer : List RawRecord := []
  /-- When the window is over. -/
  deadline : Option Nat := none
  /-- How many lines without a usable time have been reported. -/
  warnings : Nat := 0
  verdict : Option Verdict := none
deriving Repr

namespace Printer

/-- What can happen to a printer. -/
inductive Event where
  /-- The run is cancelled; these records are still queued. -/
  | cancelled (queued : List RawRecord)
  /-- The deadline has passed. -/
  | windowOver
  /-- A record is taken from the queue. -/
  | received (r : RawRecord)
  /-- The queue is empty and nobody can add to it any more. -/
  | closed
deriving DecidableEq, Repr

/-- Writes a window: its entries in order, one line each, and then a flush. -/
def printWindow (p : Printer) (now : Nat) : Sink × Option OutputFault :=
  p.sink.writeAndFlush now ((Window.resolve p.buffer p.follow).map p.layout.lineBytes)

/-- Writes the window if there is anything in it, and empties it. -/
def flush (p : Printer) (now : Nat) : Printer :=
  if p.buffer = [] then p
  else
    let (sink, fault) := p.printWindow now
    { p with
      sink
      buffer := []
      warnings := p.warnings + p.buffer.countP Window.isUnstamped
      verdict := fault.map .outputFailed }

/-- Ends with a verdict, unless there is one already. -/
def conclude (p : Printer) (v : Verdict) : Printer :=
  { p with verdict := p.verdict.or (some v) }

/-- Adds a record to the window, and sets the deadline if it is the first. -/
def take (p : Printer) (now : Nat) (r : RawRecord) : Printer :=
  { p with buffer := p.buffer ++ [r], deadline := p.deadline.or (some (now + p.window)) }

/-- What the printer does about an event. -/
def handle (p : Printer) (now : Nat) : Event → Printer
  | .windowOver => { p with deadline := none }.flush now
  | .received (.failure service fault) => (p.flush now).conclude (.readFailed service fault)
  | .received r => p.take now r
  | .closed => (p.flush now).conclude .finished
  | .cancelled queued =>
    let readable := queued.filter fun r : RawRecord => !r.isFailure
    ({ p with buffer := p.buffer ++ readable }.flush now).conclude
      (match firstFailure? queued with
        | some (service, fault) => .readFailed service fault
        | none => .finished)

/-- The event a printer at work sees first, if there is any. -/
def next (p : Printer) (now : Nat) (cancelled : Bool) (queue : List RawRecord) (closed : Bool) :
    Option Event :=
  if cancelled then some (.cancelled queue)
  else if p.deadline.any (· ≤ now) then some .windowOver
  else match queue with
    | r :: _ => some (.received r)
    | [] => if closed then some .closed else none

/-- What is left of the queue after an event. -/
def Event.leaves (queue : List RawRecord) : Event → List RawRecord
  | .cancelled _ => []
  | .received _ => queue.tail
  | _ => queue

end Printer

end Chronicle
