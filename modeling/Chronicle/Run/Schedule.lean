import Chronicle.Run.World
/-!
# A schedule

One way of many to run: the printer goes first, then the followers in order, and time passes only
when none of them can move. `World.run` follows it to the end of the run, or up to a time at which
the run is given up.
-/

namespace Chronicle

namespace World

variable {σ : Type}

/-- The first follower that can move, with its first move. -/
def firstMove? (p : Plan σ) (w : World σ) : Option (World σ) :=
  (w.followers.zipIdx).findSome? fun (f, i) => (w.followerMoves p i f).head?

/-- The least of some times, if there are any. -/
def earliest? : List Nat → Option Nat
  | [] => none
  | t :: rest => match earliest? rest with
    | none => some t
    | some u => some (min t u)

/-- The next time at which something happens by itself. -/
def nextWake? (w : World σ) (cancelAt : Option Nat) : Option Nat :=
  let own := (w.printer.deadline.toList ++ cancelAt.toList).filter (w.now < ·)
  earliest? (own ++ w.followers.filterMap (·.nextWake? w.now))

/-- What happens next under the schedule. At `horizon` the run is given up: then only the printer
still does what it can. -/
def next? (p : Plan σ) (cancelAt : Option Nat) (horizon : Nat) (w : World σ) : Option (World σ) :=
  let goesOn : Bool := w.now < horizon
  if w.isOver then none
  else if goesOn && cancelAt.any (· ≤ w.now) && !w.userCancelled then
    some { w with userCancelled := true }
  else match w.printerMove? with
    | some w' => some w'
    | none =>
      if goesOn then
        match w.firstMove? p with
        | some w' => some w'
        | none => (w.nextWake? cancelAt).map fun t => { w with now := min t horizon }
      else none

/-- Follows the schedule for at most so many steps. -/
def runFor (p : Plan σ) (cancelAt : Option Nat) (horizon : Nat) : Nat → World σ → World σ
  | 0, w => w
  | steps + 1, w => match w.next? p cancelAt horizon with
    | none => w
    | some w' => runFor p cancelAt horizon steps w'

/-- How many steps a run may take. -/
def maxSteps : Nat := 1000000

/-- Runs until the run is over, nothing more happens, or it is given up at `horizon`. -/
def run (p : Plan σ) (cancelAt : Option Nat) (horizon : Nat) (w : World σ) : World σ :=
  runFor p cancelAt horizon maxSteps w

end World

/-- What there is to tell of a run. -/
structure Report where
  /-- None if the run did not end. -/
  verdict : Option Verdict
  /-- When the run ended, or was given up. -/
  time : Nat
  sink : Sink
  /-- When each service's streams were opened, in order. -/
  opens : List (String × List (Nat × StreamOptions)) := []
  /-- When each service's container was waited for. -/
  waits : List (String × List Nat) := []
  /-- Streams that are still held. -/
  live : Nat := 0
  /-- Lines whose stamp could not be read. -/
  unreadable : Nat := 0
  /-- Services that were not followed further. -/
  lost : Nat := 0

namespace World

variable {σ : Type}

/-- What one follower's notes say under `pick`, for each service, in order of time. -/
def collect {α : Type} (w : World σ) (pick : Note → Option α) : List (String × List α) :=
  w.journal.reverse.foldl (fun table n =>
    match pick n, w.followers[n.follower]? with
    | some a, some f => put f.service a table
    | _, _ => table) []
where
  /-- Adds to the list under a name. -/
  put (name : String) (a : α) : List (String × List α) → List (String × List α)
    | [] => [(name, [a])]
    | (n, xs) :: rest => if n = name then (n, xs ++ [a]) :: rest else (n, xs) :: put name a rest

/-- What there is to tell of a run that ended or was given up at `horizon`. -/
def report (w : World σ) (horizon : Nat) : Report where
  verdict := w.printer.verdict
  time := if w.isOver then w.now else horizon
  sink := w.printer.sink
  opens := w.collect fun n => match n.deed with
    | .opened options => some (n.time, options)
    | _ => none
  waits := w.collect fun n => match n.deed with
    | .awaited => some n.time
    | _ => none
  live := if w.isOver then 0 else w.followers.countP (·.holdsStream)
  unreadable := w.printer.warnings
  lost := w.journal.countP fun n => match n.deed with
    | .lost _ => true
    | _ => false

end World

/-- Runs a plan. A run without services fails at once, and so does one whose queue cannot be made. -/
def Plan.run {σ : Type} (p : Plan σ) (backend : σ) (printer : Printer) (cancelAt : Option Nat)
    (horizon : Nat) : Report × σ :=
  if p.services.isEmpty then
    ({ verdict := some .noServices, time := 0, sink := printer.sink }, backend)
  else if !p.hasQueue then
    ({ verdict := some .noQueue, time := 0, sink := printer.sink }, backend)
  else
    let w := (World.start p backend printer).run p cancelAt horizon
    (w.report horizon, w.backend)

end Chronicle
