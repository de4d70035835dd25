import Chronicle.Printing.Printer
/-!
# Sessions

A printer with its queue, and what is done to them one thing after the other: a record is offered,
the run is cancelled, the queue is closed, time passes. Between these the printer works until it
has nothing to do.
-/

namespace Chronicle

/-- A printer, its queue and the time. -/
structure Session where
  printer : Printer
  capacity : Nat
  now : Nat := 0
  queue : List RawRecord := []
  cancelled : Bool := false
  closed : Bool := false
  /-- Records that were not accepted. -/
  refused : Nat := 0

/-- Something done to a session. -/
inductive Doing where
  | offer (r : RawRecord)
  | cancel
  | close
  | sleep (ms : Nat)
deriving DecidableEq, Repr

namespace Session

/-- One event for the printer, if there is one. -/
def work? (s : Session) : Option Session :=
  if s.printer.verdict.isSome then none
  else (s.printer.next s.now s.cancelled s.queue s.closed).map fun event =>
    { s with printer := s.printer.handle s.now event, queue := event.leaves s.queue }

/-- The printer works for at most so many events. -/
def workFor : Nat → Session → Session
  | 0, s => s
  | events + 1, s => match s.work? with
    | none => s
    | some t => workFor events t

/-- The printer works until it has nothing to do: a record each, the deadline, and the end. -/
def settle (s : Session) : Session := s.workFor (s.queue.length + 3)

/-- Time passes up to `until`, and the printer meets the deadlines before it. -/
def passTo : Nat → Nat → Session → Session
  | 0, time, s => { s with now := time }
  | deadlines + 1, time, s =>
    match if s.printer.verdict.isSome then none else s.printer.deadline with
    | some d =>
      if d < time then passTo deadlines time { s with now := max s.now d }.settle
      else { s with now := time }
    | none => { s with now := time }

/-- One thing is done to the session. -/
def apply (s : Session) : Doing → Session
  | .offer r =>
    if s.closed || s.printer.verdict.isSome || s.capacity ≤ s.queue.length then
      { s with refused := s.refused + 1 }
    else { s with queue := s.queue ++ [r] }
  | .cancel => { s with cancelled := true }
  | .close => { s with closed := true }
  | .sleep ms =>
    if ms = 0 then s
    else
      let s := s.settle
      s.passTo (s.queue.length + 2) (s.now + ms)

/-- Things are done in a row, and the printer reacts when all are done. -/
def turn (s : Session) (doings : List Doing) : Session := (doings.foldl apply s).settle

end Session

end Chronicle
