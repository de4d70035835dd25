import Chronicle.Stream.Frames
import Chronicle.Stream.Lines
import Chronicle.Stream.Outcome
/-!
# Log streams

A log stream reads lines from the body of an answer. The body comes in pieces; without a terminal
its bytes are frames. `LogStream.read` is one read, `LogStream.readMany` some in a row.
-/

namespace Chronicle

/-- A piece of a body: bytes, or trailing headers, which are no part of the content. -/
inductive Piece where
  | data (bs : List UInt8)
  | trailer
deriving DecidableEq, Repr

/-- What follows the last piece. -/
inductive Ending where
  | complete
  | broken
  /-- Nothing more comes, and the body does not end. -/
  | silent
deriving DecidableEq, Repr

/-- The body of an answer as it arrives. -/
structure Body where
  pieces : List Piece := []
  ending : Ending := .complete
deriving DecidableEq, Repr

/-- An open log stream. Without a decoder its bytes are the output itself. -/
structure LogStream where
  body : Body
  decoder : Option FrameDecoder
  lines : Splitter := {}
  ended : Bool := false
deriving DecidableEq, Repr

namespace LogStream

/-- A stream at the start of a body. -/
def start (body : Body) (terminal : Bool) : LogStream :=
  { body, decoder := if terminal then none else some {} }

/-- Takes in the bytes of a piece. -/
def accept (s : LogStream) (bs : List UInt8) : LogStream × Option Fault :=
  match s.decoder with
  | none => ({ s with lines := s.lines.push bs }, none)
  | some d =>
    let (payload, d, fault) := d.decode bs
    ({ s with decoder := some d, lines := s.lines.push payload }, fault)

/-- The stream with these pieces still to come. -/
def withPieces (s : LogStream) (pieces : List Piece) : LogStream :=
  { s with body := { s.body with pieces } }

/-- The outcome that needs no more of the body, if there is one. -/
def ready? (s : LogStream) : Option (Outcome × LogStream) :=
  match s.lines.next? with
  | some (line, lines) => some (.line line, { s with lines })
  | none =>
    if s.ended then
      let (rest, lines) := s.lines.takeRest
      some (.ended rest, { s with lines })
    else none

/-- The outcome of a read at the end of the body. A body that broke counts as ended afterwards. -/
def atEnd (s : LogStream) : Option Outcome × LogStream :=
  match s.body.ending with
  | .complete =>
    if s.decoder.all (·.isEmpty) then
      let (rest, lines) := s.lines.takeRest
      (some (.ended rest), { s with lines, ended := true })
    else (some (.failed (.frame "stream ended inside a frame")), s)
  | .broken => (some (.failed .http), { s with body := {} })
  | .silent => (none, s)

/-- Reads once, given the pieces that are still to come. -/
def readFrom (s : LogStream) : List Piece → Option Outcome × LogStream
  | [] =>
    match s.ready? with
    | some (outcome, t) => (some outcome, t.withPieces [])
    | none => (s.withPieces []).atEnd
  | piece :: more =>
    match s.ready? with
    | some (outcome, t) => (some outcome, t.withPieces (piece :: more))
    | none =>
      match piece with
      | .trailer => s.readFrom more
      | .data bs =>
        match s.accept bs with
        | (t, none) => t.readFrom more
        | (t, some fault) => (some (.failed fault), t.withPieces more)

/-- Reads once. There is no outcome if the read does not return. -/
def read (s : LogStream) : Option Outcome × LogStream := s.readFrom s.body.pieces

/-- Reads at most `most` times and stops after `stops` outcomes that are no line. -/
def readMany : Nat → Nat → LogStream → List Outcome
  | 0, _, _ => []
  | most + 1, stops, s =>
    match s.read with
    | (none, _) => []
    | (some (.line text), s) => .line text :: readMany most stops s
    | (some outcome, s) =>
      match stops with
      | 0 | 1 => [outcome]
      | stops + 1 => outcome :: readMany most stops s

end LogStream

end Chronicle
