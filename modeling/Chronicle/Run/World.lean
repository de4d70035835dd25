import Chronicle.Printing.Printer
import Chronicle.Run.Courier
import Chronicle.Text.Decimal
/-!
# Runs

A run has a follower for each service and one printer, with a queue between them. A follower carries
a stream to the queue; when streams are followed it then waits for the container to run again and
opens the next one. The run ends when the printer is done. It is cancelled by the user, or by itself
when no follower is active any more, and the printer then takes what is queued and stops.

`World.Step` is one step of a run: a move of a follower or of the printer, or the passing of time.
Any of the moves that are possible may come next.
-/

namespace Chronicle

/-- What does not change during a run. -/
structure Plan (σ : Type) where
  backend : Backend σ
  services : List String
  follow : Bool := false
  previous : Bool := false
  /-- Milliseconds from the end of a stream until the next is waited for. -/
  settle : Nat
  /-- Slots of the queue. -/
  capacity : Nat
  /-- When the run starts. -/
  start : Instant

/-- Slots of the queue for so many services. -/
def queueCapacity (services queuePerService : Nat) : Nat := services * max queuePerService 1

/-- The same number as it is counted in 64 bits. -/
def queueSlots (services queuePerService : Nat) : Nat :=
  queueCapacity services queuePerService % (Decimal.maxU64 + 1)

/-- The most slots that a queue can have. -/
def maxSlots : Nat := Decimal.maxU64 / 8

/-- Can the queue be made? -/
def Plan.hasQueue {σ : Type} (p : Plan σ) : Bool := 1 ≤ p.capacity && p.capacity ≤ maxSlots

/-- What a follower is doing. -/
inductive Stage where
  /-- About to open a stream. -/
  | ready
  | carrying (c : Courier)
  /-- About to queue that its stream could not be opened. -/
  | reporting (fault : Fault)
  | settling (wake : Nat) (ended : Instant)
  | awaiting (e : Errand (Except WatchFault Unit)) (ended : Instant)
  | gone

/-- The follower of a service. -/
structure Follower where
  service : String
  options : StreamOptions
  stage : Stage := .ready

namespace Follower

/-- Is a stream being opened, read or reported? -/
def isActive (f : Follower) : Bool :=
  match f.stage with
  | .ready | .carrying _ | .reporting _ => true
  | _ => false

/-- The follower has nothing more to do. -/
def isGone (f : Follower) : Bool :=
  match f.stage with
  | .gone => true
  | _ => false

/-- The follower holds an open stream. -/
def holdsStream (f : Follower) : Bool :=
  match f.stage with
  | .carrying c => c.holdsStream
  | _ => false

/-- When a follower that cannot move now will move by itself. -/
def nextWake? (f : Follower) (now : Nat) : Option Nat :=
  match f.stage with
  | .carrying c => c.nextWake? now
  | .settling wake _ => if now < wake then some wake else none
  | .awaiting e _ => e.nextWake? now
  | _ => none

end Follower

/-- Something a follower did. -/
inductive Deed where
  | opened (options : StreamOptions)
  /-- Its stream could not be opened. -/
  | notOpened (fault : Fault)
  | got (o : Outcome)
  | queued (r : RawRecord)
  | awaited
  /-- Became active again. -/
  | acquired
  /-- Stopped being active. -/
  | released
  /-- Waiting failed, so the service is not followed further. -/
  | lost (fault : WatchFault)
deriving DecidableEq, Repr

/-- What a follower did, and when. -/
structure Note where
  follower : Nat
  time : Nat
  deed : Deed
deriving DecidableEq, Repr

/-- The state of a run. -/
structure World (σ : Type) where
  /-- Milliseconds since the start. -/
  now : Nat := 0
  backend : σ
  queue : List RawRecord := []
  userCancelled : Bool := false
  /-- The run has cancelled itself. -/
  selfCancelled : Bool := false
  /-- How many followers are active. -/
  active : Int
  followers : List Follower
  printer : Printer
  /-- What the followers did, the latest first. -/
  journal : List Note := []

namespace World

variable {σ : Type}

/-- A run at its start. -/
def start (p : Plan σ) (backend : σ) (printer : Printer) : World σ where
  backend := backend
  active := p.services.length
  followers := p.services.map fun service =>
    { service, options := { follow := p.follow, previous := p.previous } }
  printer := { printer with
    follow := p.follow
    layout := { printer.layout with labels := 1 < p.services.length } }

/-- The run is cancelled. -/
def cancelled (w : World σ) : Bool := w.userCancelled || w.selfCancelled

/-- The run is over. -/
def isOver (w : World σ) : Bool := w.printer.verdict.isSome

/-- What a follower can see. -/
def surroundings (p : Plan σ) (w : World σ) : Surroundings where
  now := w.now
  instant := p.start.later w.now
  cancelled := w.cancelled
  printed := w.printer.sink.flushedSize
  hasRoom := w.queue.length < p.capacity

/-- A follower is in another stage. -/
def setStage (w : World σ) (i : Nat) (stage : Stage) : World σ :=
  { w with followers := w.followers.modify i fun f => { f with stage } }

/-- A follower did something. -/
def note (w : World σ) (i : Nat) (deed : Deed) : World σ :=
  { w with journal := ⟨i, w.now, deed⟩ :: w.journal }

/-- One follower less is active. When it is the last, the run is cancelled. -/
def release (w : World σ) (i : Nat) : World σ :=
  let w := w.note i .released
  { w with active := w.active - 1, selfCancelled := w.selfCancelled || w.active == 1 }

/-- One follower more is active. -/
def acquire (w : World σ) (i : Nat) : World σ :=
  let w := w.note i .acquired
  { w with active := w.active + 1 }

/-- What a courier's act does to the run. -/
def perform (w : World σ) (i : Nat) : Act → World σ
  | .nothing => w
  | .read => w
  | .cancel => { w with userCancelled := true }
  | .got outcome => w.note i (.got outcome)
  | .queue r => { w.note i (.queued r) with queue := w.queue ++ [r] }

/-- A follower stops being active and leaves. -/
def leave (w : World σ) (i : Nat) : World σ := (w.release i).setStage i .gone

/-- What a follower does when its courier is done. -/
def afterStream (p : Plan σ) (w : World σ) (i : Nat) : Except CourierFault Unit → World σ
  | .error (.notOpened fault) => (w.note i (.notOpened fault)).setStage i (.reporting fault)
  | .error (.broken _) => w.leave i
  | .ok () =>
    if p.follow then
      (w.release i).setStage i (.settling (w.now + p.settle) (p.start.later w.now))
    else w.leave i

/-- What a follower does when the container runs again, or does not. -/
def afterWait (w : World σ) (i : Nat) (ended : Instant) : Except WatchFault Unit → World σ
  | .ok () =>
    let w := w.acquire i
    { w with followers := w.followers.modify i fun f =>
        { f with
          stage := .ready
          options := { f.options with previous := false, since := some ended } } }
  | .error .cancelled => w.setStage i .gone
  | .error fault => (w.note i (.lost fault)).setStage i .gone

/-- What a follower can do next. -/
def followerMoves (p : Plan σ) (w : World σ) (i : Nat) (f : Follower) : List (World σ) :=
  let s := w.surroundings p
  match f.stage with
  | .gone => []
  | .ready =>
    let (call, backend) := p.backend.openStream w.backend f.service f.options
    let w := { w with backend }
    [(w.note i (.opened f.options)).setStage i (.carrying (.opening ⟨w.now, call⟩))]
  | .carrying c =>
    (c.moves f.service s).map fun (after, act) =>
      let w := w.perform i act
      match after with
      | .going c => w.setStage i (.carrying c)
      | .done result => w.afterStream p i result
  | .reporting fault =>
    let (taken, givenUp) := Courier.offers s
    (if taken then [(w.perform i (.queue (.failure f.service fault))).leave i] else []) ++
    (if givenUp then [w.leave i] else [])
  | .settling wake ended =>
    if w.now < wake then []
    else if w.cancelled then [w.setStage i .gone]
    else
      let (call, backend) := p.backend.awaitRunning w.backend f.service
      let w := { w with backend }
      [(w.note i .awaited).setStage i (.awaiting ⟨w.now, call⟩ ended)]
  | .awaiting e ended =>
    if w.cancelled then [w.setStage i .gone]
    else match e.step? s with
      | none => []
      | some (.waits e) => [w.setStage i (.awaiting e ended)]
      | some (.cancels e) => [(w.perform i .cancel).setStage i (.awaiting e ended)]
      | some (.returns result) => [w.afterWait i ended result]

/-- What the printer does next, if it can do anything. -/
def printerMove? (w : World σ) : Option (World σ) :=
  (w.printer.next w.now w.cancelled w.queue (w.followers.all (·.isGone))).map fun event =>
    { w with printer := w.printer.handle w.now event, queue := event.leaves w.queue }

/-- One step of a run that is not over. Once the printer is done nothing moves: in the same stretch
in which it gives its verdict the run is cancelled and its followers are stopped where they are, so
none of them has a turn after that. -/
inductive Step (p : Plan σ) : World σ → World σ → Prop where
  | follower {w w' : World σ} {i : Nat} {f : Follower} (going : w.isOver = false)
      (at_i : w.followers[i]? = some f) (move : w' ∈ w.followerMoves p i f) : Step p w w'
  | printer {w w' : World σ} (going : w.isOver = false) (move : w.printerMove? = some w') :
      Step p w w'
  | userCancels {w : World σ} (going : w.isOver = false) :
      Step p w { w with userCancelled := true }
  | timePasses {w : World σ} (going : w.isOver = false) (ms : Nat) :
      Step p w { w with now := w.now + ms }

/-- States a run can come to. -/
inductive Reachable (p : Plan σ) (w₀ : World σ) : World σ → Prop where
  | start : Reachable p w₀ w₀
  | step {w w' : World σ} (before : Reachable p w₀ w) (step : Step p w w') : Reachable p w₀ w'

end World

end Chronicle
