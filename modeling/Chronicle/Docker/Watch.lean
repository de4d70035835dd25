import Chronicle.Docker.Phase
import Chronicle.Fault
import Chronicle.Stream.LogStream
/-!
# Watches

A watch waits until a container is in a phase that is wanted. It first asks for the container's
events and then looks at the phase, so that no change between the two is missed; after that it looks
again at each event, which is one line.

`Watch.handle` is what the watch does when it is told something; its stage says what it waits for.
-/

namespace Chronicle

/-- What a watch waits for. -/
inductive Watch.Stage where
  | subscribing
  | inspecting
  | listening
  | finished (result : Except WatchFault Unit)

/-- A watch at work. -/
structure Watch where
  stage : Watch.Stage := .subscribing
  /-- Bytes of events that have not been looked at. -/
  lines : Splitter := {}

namespace Watch

/-- What a watch is told. -/
inductive News where
  | subscribed (result : Except Fault Unit)
  | inspected (result : Except Fault Phase)
  | heard (piece : Piece)
  /-- The events are over. -/
  | ended
  /-- The connection broke. -/
  | broke

/-- A watch that has failed. -/
def fail (w : Watch) (fault : Fault) : Watch :=
  { w with stage := .finished (.error (.failed fault)) }

/-- Looks at the phase again if there is another event, or else waits for more. -/
def proceed (w : Watch) : Watch :=
  match w.lines.next? with
  | some (_, lines) => { stage := .inspecting, lines }
  | none => { w with stage := .listening }

/-- What the watch does when it is told something it waits for. -/
def handle (wanted : Phase → Bool) (w : Watch) (news : News) : Watch :=
  match w.stage, news with
  | .subscribing, .subscribed (.ok ()) => { w with stage := .inspecting }
  | .subscribing, .subscribed (.error fault) => w.fail fault
  | .inspecting, .inspected (.ok phase) =>
    if wanted phase then { w with stage := .finished (.ok ()) } else w.proceed
  | .inspecting, .inspected (.error fault) => w.fail fault
  | .listening, .heard (.data bs) => { w with lines := w.lines.push bs }.proceed
  | .listening, .heard .trailer => w
  | .listening, .ended => { w with stage := .finished (.error .closed) }
  | .listening, .broke => w.fail .http
  | _, _ => w

/-- The result of a watch that is over. -/
def result? (w : Watch) : Option (Except WatchFault Unit) :=
  match w.stage with
  | .finished result => some result
  | _ => none

end Watch

end Chronicle
