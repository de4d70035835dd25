import Chronicle.Time.Instant
/-!
# Calls

A call is something asked of the outside: to open a stream, to read a line, to wait for a container.
What happens before it returns is a list of delays. An `Errand` is a call that has been made, and
`Errand.step?` is the next thing that happens to it.
-/

namespace Chronicle

/-- Something that happens before a call returns. -/
inductive Delay where
  /-- This many milliseconds pass. -/
  | pause (ms : Nat)
  /-- The user cancels. -/
  | cancel
  /-- So many bytes have been printed. -/
  | untilPrinted (size : Nat)
deriving DecidableEq, Repr

/-- A call: what happens before it returns, and what it returns, if it ever does. -/
structure Call (α : Type) where
  delays : List Delay := []
  result : Option α := none
deriving DecidableEq, Repr

/-- What a task can see around it. Milliseconds count from the start of the run. -/
structure Surroundings where
  now : Nat
  /-- The instant that is `now`. -/
  instant : Instant
  cancelled : Bool
  printed : Nat := 0
  /-- The queue has a free slot. -/
  hasRoom : Bool := true
  /-- Nobody takes records from the queue any more. -/
  isClosed : Bool := false
deriving Repr

/-- A call that has been made: what is still to happen, and not before `wake`. -/
structure Errand (α : Type) where
  wake : Nat
  call : Call α
deriving DecidableEq, Repr

namespace Errand

/-- What happens next to a call. -/
inductive Progress (α : Type) where
  | waits (e : Errand α)
  | cancels (e : Errand α)
  | returns (a : α)
deriving DecidableEq, Repr

/-- What happens next to a call, if anything can happen now. -/
def step? {α : Type} (e : Errand α) (s : Surroundings) : Option (Progress α) :=
  if s.now < e.wake then none
  else match e.call.delays with
    | [] => e.call.result.map .returns
    | .pause ms :: rest => some (.waits ⟨s.now + ms, { e.call with delays := rest }⟩)
    | .cancel :: rest => some (.cancels ⟨s.now, { e.call with delays := rest }⟩)
    | .untilPrinted size :: rest =>
      if size ≤ s.printed then some (.waits ⟨s.now, { e.call with delays := rest }⟩) else none

/-- When a call that cannot go on now will go on by itself. -/
def nextWake? {α : Type} (e : Errand α) (now : Nat) : Option Nat :=
  if now < e.wake then some e.wake else none

end Errand

/-- An instant some milliseconds later. -/
def Instant.later (i : Instant) (ms : Nat) : Instant :=
  let nanos := i.nanos + ms * 1000000
  ⟨i.seconds + (nanos / nanosPerSecond : Nat), nanos % nanosPerSecond⟩

end Chronicle
