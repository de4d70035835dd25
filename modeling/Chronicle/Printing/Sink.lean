/-!
# Sinks

A sink is what the printer writes to. It may accept only so many bytes in all, and it may fail
to flush, at once or after some flushes that work. A write that does not fit leaves the part that
fits.
-/

namespace Chronicle

/-- Why output failed. -/
inductive OutputFault where
  | full
  | flush
deriving DecidableEq, Repr

/-- What a user is told. -/
def OutputFault.message : OutputFault → String
  | .full => "disk full"
  | .flush => "flush failed"

/-- What has been written, and what the sink will still take. -/
structure Sink where
  /-- How many more bytes are accepted; without a number there is no end to it. -/
  room : Option Nat := none
  failsFlush : Bool := false
  /-- How many flushes still work before one fails, if one does. -/
  goodFlushes : Nat := 0
  /-- What each flush let through, and when. -/
  flushed : List (Nat × List UInt8) := []
  /-- Accepted since the last flush. -/
  pending : List UInt8 := []
deriving DecidableEq, Repr

namespace Sink

/-- All bytes accepted so far. -/
def written (s : Sink) : List UInt8 := s.flushed.flatMap (·.2) ++ s.pending

/-- How many bytes have been let through by flushes. -/
def flushedSize (s : Sink) : Nat := s.flushed.foldl (fun size f => size + f.2.length) 0

/-- Writes bytes, as many as there is room for. -/
def write (s : Sink) (bs : List UInt8) : Sink × Option OutputFault :=
  match s.room with
  | none => ({ s with pending := s.pending ++ bs }, none)
  | some room =>
    if bs.length ≤ room then
      ({ s with pending := s.pending ++ bs, room := some (room - bs.length) }, none)
    else ({ s with pending := s.pending ++ bs.take room, room := some 0 }, some .full)

/-- Lets through what is pending. -/
def flush (s : Sink) (now : Nat) : Sink × Option OutputFault :=
  let done := { s with flushed := s.flushed ++ [(now, s.pending)], pending := [] }
  if !s.failsFlush then (done, none)
  else match s.goodFlushes with
    | 0 => (s, some .flush)
    | left + 1 => ({ done with goodFlushes := left }, none)

/-- Writes one piece after the other up to the first that fails. -/
def writeAll (s : Sink) : List (List UInt8) → Sink × Option OutputFault
  | [] => (s, none)
  | bs :: rest =>
    match s.write bs with
    | (t, none) => t.writeAll rest
    | (t, some fault) => (t, some fault)

/-- Writes the pieces and, if all of them could be written, flushes. -/
def writeAndFlush (s : Sink) (now : Nat) (pieces : List (List UInt8)) : Sink × Option OutputFault :=
  match s.writeAll pieces with
  | (t, none) => t.flush now
  | failed => failed

end Sink

end Chronicle
