import Chronicle.Run.Courier
import Chronicle.Run.Schedule
/-!
# Relays

A courier alone with a reader at the other end of its queue, who takes a record now and then, and at
some time closes the queue.
-/

namespace Chronicle

/-- When the reader takes a record, and when it closes the queue. -/
structure Reader where
  takes : List Nat := []
  closes : Option Nat := none
deriving DecidableEq, Repr

/-- A courier and what has come of it. -/
structure Relay where
  service : String
  courier : Courier.After
  capacity : Nat
  reader : Reader
  now : Nat := 0
  queue : List RawRecord := []
  cancelled : Bool := false
  closed : Bool := false
  /-- The courier has been given up. -/
  abandoned : Bool := false
  /-- How often the stream was read. -/
  reads : Nat := 0
  /-- What the reader has, and since when. -/
  taken : List (Nat × RawRecord) := []
  /-- When the courier was done. -/
  doneAt : Option Nat := none

namespace Relay

/-- What the courier can see. -/
def surroundings (start : Instant) (r : Relay) : Surroundings where
  now := r.now
  instant := start.later r.now
  cancelled := r.cancelled
  hasRoom := r.queue.length < r.capacity
  isClosed := r.closed

/-- What an act does. -/
def perform (r : Relay) : Act → Relay
  | .nothing => r
  | .got _ => r
  | .cancel => { r with cancelled := true }
  | .read => { r with reads := r.reads + 1 }
  | .queue record => { r with queue := r.queue ++ [record] }

/-- The courier is neither done nor given up. -/
def isAtWork (r : Relay) : Bool :=
  match r.courier with
  | .done _ => false
  | .going _ => !r.abandoned

/-- The courier's first move, if it can move. -/
def courierMove? (start : Instant) (r : Relay) : Option Relay :=
  match r.courier with
  | .done _ => none
  | .going c => (c.moves r.service (r.surroundings start)).head?.map fun (after, act) =>
    let doneAt := match after with
      | .done _ => some r.now
      | .going _ => none
    { r.perform act with courier := after, doneAt }

/-- The reader takes the record at the head of the queue, if there is one. -/
def take (r : Relay) : Relay :=
  { r with
    taken := r.taken ++ (r.queue.head?.map fun record => (r.now, record)).toList
    queue := r.queue.tail }

/-- What the reader does now, if anything. -/
def readerMove? (r : Relay) : Option Relay :=
  match r.reader.takes with
  | time :: takes =>
    if time ≤ r.now then some { r.take with reader := { r.reader with takes } } else drop
  | [] => drop
where
  /-- The reader closes the queue, if it is time. -/
  drop : Option Relay :=
    if r.reader.closes.any (· ≤ r.now) then
      some { r with closed := true, reader := { r.reader with closes := none } }
    else none

/-- When something happens next by itself. -/
def nextWake? (r : Relay) (cancelAt : Option Nat) : Option Nat :=
  let reader := r.reader.takes.head?.toList ++ r.reader.closes.toList
  let courier := match r.courier with
    | .going c => (c.nextWake? r.now).toList ++ cancelAt.toList
    | .done _ => []
  World.earliest? ((reader ++ if r.isAtWork then courier else []).filter (r.now < ·))

/-- What happens next. At `horizon` a courier that is still at work is given up once it cannot move;
the reader goes on. -/
def next? (start : Instant) (cancelAt : Option Nat) (horizon : Nat) (r : Relay) : Option Relay :=
  if r.now < horizon && cancelAt.any (· ≤ r.now) && !r.cancelled then
    some { r with cancelled := true }
  else match if r.isAtWork then r.courierMove? start else none with
    | some r' => some r'
    | none =>
      if r.isAtWork && horizon ≤ r.now then some { r with abandoned := true }
      else match r.readerMove? with
        | some r' => some r'
        | none => (r.nextWake? cancelAt).map fun t =>
          { r with now := if r.isAtWork then min t horizon else t }

/-- Goes on for at most so many steps. -/
def runFor (start : Instant) (cancelAt : Option Nat) (horizon : Nat) : Nat → Relay → Relay
  | 0, r => r
  | steps + 1, r => match r.next? start cancelAt horizon with
    | none => r
    | some r' => runFor start cancelAt horizon steps r'

/-- Runs until nothing more happens; the reader then takes what is left. -/
def run (start : Instant) (cancelAt : Option Nat) (horizon : Nat) (r : Relay) : Relay :=
  let r := r.runFor start cancelAt horizon World.maxSteps
  let left := r.queue.map fun record => (r.doneAt.getD horizon, record)
  { r with taken := r.taken ++ left, queue := [] }

/-- A courier that is about to open the stream of a service. -/
def start (service : String) (opening : Opening) (capacity : Nat) (reader : Reader) : Relay where
  service := service
  courier := .going (.opening ⟨0, opening⟩)
  capacity := capacity
  reader := reader

end Relay

end Chronicle
