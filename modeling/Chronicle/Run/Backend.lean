import Chronicle.Run.Call
import Chronicle.Stream.Outcome
/-!
# Backends

A backend is where log streams come from and where containers are watched. Its state `σ` is whatever
it has to remember from call to call. `Playlist` is the backend that follows a script: for each
service the streams it opens one after the other, and the waits.
-/

namespace Chronicle

/-- What is asked for when a stream is opened. -/
structure StreamOptions where
  follow : Bool := false
  /-- Only what was written before the container last started. -/
  previous : Bool := false
  /-- Only what was written from here on. -/
  since : Option Instant := none
deriving DecidableEq, Repr

/-- A stream as the reads it answers. After the last of them a read does not return. -/
abbrev Script := List (Call Outcome)

/-- The next read from a stream. -/
def Script.next : Script → Call Outcome × Script
  | [] => ({}, [])
  | read :: rest => (read, rest)

/-- Opening a stream gives the stream or a fault. -/
abbrev Opening := Call (Except Fault Script)

/-- Waiting for a container to run again succeeds or fails. -/
abbrev Awaiting := Call (Except WatchFault Unit)

/-- Where streams come from. -/
structure Backend (σ : Type) where
  /-- Opens the stream of a service. -/
  openStream : σ → String → StreamOptions → Opening × σ
  /-- Waits until the container of a service runs. -/
  awaitRunning : σ → String → Awaiting × σ

/-- What is still to be played for each service. -/
structure Playlist where
  streams : List (String × List Opening) := []
  restarts : List (String × List Awaiting) := []

namespace Playlist

/-- Takes the first thing listed under a name. -/
def pop {α : Type} (name : String) : List (String × List α) → Option α × List (String × List α)
  | [] => (none, [])
  | (n, xs) :: rest =>
    if n = name then (xs.head?, (n, xs.tail) :: rest)
    else
      let (x, rest) := pop name rest
      (x, (n, xs) :: rest)

/-- The backend that plays a list. A service without a stream left is not found, and a wait that is
not on the list goes on for ever. -/
def backend : Backend Playlist where
  openStream p service _ :=
    let (x, streams) := pop service p.streams
    (x.getD { result := some (.error (.notFound service)) }, { p with streams })
  awaitRunning p service :=
    let (x, restarts) := pop service p.restarts
    (x.getD {}, { p with restarts })

end Playlist

end Chronicle
