import Chronicle.Record
import Chronicle.Run.Backend
/-!
# Couriers

A courier carries one stream to the queue: it opens the stream, reads, and queues a record for each
line, for the end, and for a failure. It stops when it is cancelled between two reads, and when a
record cannot be queued. `Courier.moves` lists what it can do next; there is more than one thing
only when a record could be queued and the run is cancelled.
-/

namespace Chronicle

/-- Why a courier failed. -/
inductive CourierFault where
  /-- The stream could not be opened; nothing was queued. -/
  | notOpened (fault : Fault)
  /-- A read failed; a record of that is queued, unless the run is over. -/
  | broken (fault : Fault)
deriving DecidableEq, Repr

/-- The texts of a failure, the outermost first. -/
def CourierFault.causes : CourierFault → List Cause
  | .notOpened fault => .said "start logs stream" :: fault.causes
  | .broken fault => .said "read logs stream" :: fault.causes

/-- A courier at work. -/
inductive Courier where
  | opening (e : Errand (Except Fault Script))
  | between (script : Script)
  | reading (e : Errand Outcome) (rest : Script)
  /-- It has read something and offers the record of it to the queue. -/
  | sending (o : Outcome) (receivedAt : Instant) (rest : Script)

/-- A courier after a move: still at work or done. -/
inductive Courier.After where
  | going (c : Courier)
  | done (result : Except CourierFault Unit)

/-- What a move does to the surroundings. -/
inductive Act where
  | nothing
  /-- The user cancels. -/
  | cancel
  /-- A stream is read. -/
  | read
  /-- A read has returned. -/
  | got (o : Outcome)
  /-- A record is put on the queue. -/
  | queue (r : RawRecord)
deriving DecidableEq, Repr

namespace Courier

/-- The record of an outcome. -/
def recordOf (service : String) (receivedAt : Instant) : Outcome → RawRecord
  | .line text => .data service text receivedAt
  | .ended trailing => .terminal service trailing receivedAt
  | .failed fault => .failure service fault

/-- What a courier does once the record of an outcome is queued: after a line it reads on. -/
def accepted (rest : Script) : Outcome → After
  | .line _ => .going (.between rest)
  | .ended _ => .done (.ok ())
  | .failed fault => .done (.error (.broken fault))

/-- How a courier ends when the record of an outcome could not be queued. -/
def refused : Outcome → Except CourierFault Unit
  | .failed fault => .error (.broken fault)
  | _ => .ok ()

/-- May a record that is offered be taken, and may its sender give up? -/
def offers (s : Surroundings) : Bool × Bool :=
  if s.isClosed then (false, true) else (s.hasRoom, s.cancelled)

/-- What the courier of a service can do next, and what that does. -/
def moves (service : String) (s : Surroundings) : Courier → List (After × Act)
  | .opening e =>
    match e.step? s with
    | none => []
    | some (.waits e) => [(.going (.opening e), .nothing)]
    | some (.cancels e) => [(.going (.opening e), .cancel)]
    | some (.returns (.ok script)) => [(.going (.between script), .nothing)]
    | some (.returns (.error fault)) => [(.done (.error (.notOpened fault)), .nothing)]
  | .between script =>
    if s.cancelled then [(.done (.ok ()), .nothing)]
    else
      let (read, rest) := script.next
      [(.going (.reading ⟨s.now, read⟩ rest), .read)]
  | .reading e rest =>
    match e.step? s with
    | none => []
    | some (.waits e) => [(.going (.reading e rest), .nothing)]
    | some (.cancels e) => [(.going (.reading e rest), .cancel)]
    | some (.returns o) => [(.going (.sending o s.instant rest), .got o)]
  | .sending o receivedAt rest =>
    let (taken, givenUp) := offers s
    (if taken then [(accepted rest o, .queue (recordOf service receivedAt o))] else []) ++
    (if givenUp then [(.done (refused o), .nothing)] else [])

/-- When a courier that cannot move now will move by itself. -/
def nextWake? (now : Nat) : Courier → Option Nat
  | .opening e => e.nextWake? now
  | .reading e _ => e.nextWake? now
  | _ => none

/-- A courier holds a stream once it is opened. -/
def holdsStream : Courier → Bool
  | .opening _ => false
  | _ => true

end Courier

end Chronicle
