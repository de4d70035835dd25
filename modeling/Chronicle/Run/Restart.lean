import Chronicle.Docker.Phase
import Chronicle.Run.Schedule
/-!
# Restarts

Waiting for a container to run again, with a user who may cancel first.
-/

namespace Chronicle

/-- What a watch sees: a phase after every so many milliseconds, and how it ends if none of them is
the one waited for. -/
structure Sightings where
  phases : List Phase := []
  every : Nat
  /-- How the watch ends; without an end it goes on for ever. -/
  ending : Option WatchFault := none
deriving DecidableEq, Repr

/-- The call that waits until the container runs. -/
def Sightings.awaiting (s : Sightings) : Awaiting :=
  let before := s.phases.takeWhile (· != .running)
  if s.phases.contains .running then
    { delays := List.replicate (before.length + 1) (.pause s.every), result := some (.ok ()) }
  else
    { delays := List.replicate before.length (.pause s.every), result := s.ending.map .error }

/-- A wait that is going on, or over. -/
structure Patience where
  errand : Errand (Except WatchFault Unit)
  now : Nat := 0
  cancelled : Bool := false
  result : Option (Except WatchFault Unit) := none
  /-- The watch was asked: a wait that is cancelled before it begins asks nothing. -/
  asked : Bool

namespace Patience

/-- What happens next, up to `horizon`. Cancellation is seen first. -/
def next? (cancelAt : Option Nat) (horizon : Nat) (w : Patience) : Option Patience :=
  if w.result.isSome then none
  else if w.cancelled then some { w with result := some (.error .cancelled) }
  else if w.now < horizon && cancelAt.any (· ≤ w.now) then some { w with cancelled := true }
  else
    match w.errand.step? { now := w.now, instant := ⟨0, 0⟩, cancelled := w.cancelled } with
    | some (.waits errand) => some { w with errand }
    | some (.cancels errand) => some { w with errand, cancelled := true }
    | some (.returns result) => some { w with result := some result }
    | none =>
      match World.earliest? (((w.errand.nextWake? w.now).toList ++ cancelAt.toList).filter
          (w.now < ·)) with
      | some t => if t ≤ horizon then some { w with now := t } else none
      | none => none

/-- Goes on for at most so many steps. -/
def runFor (cancelAt : Option Nat) (horizon : Nat) : Nat → Patience → Patience
  | 0, w => w
  | steps + 1, w => match w.next? cancelAt horizon with
    | none => w
    | some w' => runFor cancelAt horizon steps w'

/-- Waits to the end, or until nothing more happens up to `horizon`. -/
def wait (call : Awaiting) (cancelAt : Option Nat) (horizon : Nat) : Patience :=
  runFor cancelAt horizon World.maxSteps
    { errand := ⟨0, call⟩, asked := !cancelAt.any (· ≤ 0) }

end Patience

end Chronicle
