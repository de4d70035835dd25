import Chronicle.Docker.Daemon
import Chronicle.Docker.Watch
/-!
# The client

What a client does with its connection to a daemon. A `Dialogue` is a call that may ask the daemon
one thing after the other: it goes on only as long as it gets answers.
-/

namespace Chronicle

/-- Something a client does: a call, and the connection after it. -/
def Dialogue (α : Type) : Type := Connection → Call α × Connection

namespace Dialogue

/-- Ends with a value. -/
def result {α : Type} (a : α) : Dialogue α := fun c => ({ result := some a }, c)

/-- Goes on with what the first part gives, if it gives anything. -/
def andThen {α β : Type} (m : Dialogue α) (f : α → Dialogue β) : Dialogue β := fun c =>
  let (first, c) := m c
  match first.result with
  | none => ({ delays := first.delays }, c)
  | some a =>
    let (second, c) := f a c
    ({ second with delays := first.delays ++ second.delays }, c)

instance : Monad Dialogue where
  pure := result
  bind := andThen

/-- Takes time, and ends. -/
def wait (delays : List Delay) : Dialogue Unit := fun c => ({ delays, result := some () }, c)

/-- Never ends. -/
def never {α : Type} : Dialogue α := fun c => ({}, c)

/-- Does not end if the user cancels meanwhile. -/
def unlessCancelled {α : Type} (m : Dialogue α) : Dialogue α := fun c =>
  let (call, c) := m c
  (if call.delays.contains .cancel then { call with result := none } else call, c)

end Dialogue

/-- Like a dialogue, and may fail. -/
abbrev Asking := ExceptT Fault Dialogue

/-- The content of a successful answer, with what happens before it ends. -/
structure Content where
  body : Body
  atEnd : List Delay := []

namespace Client

/-- The error message in the body of an answer: the `message` of a JSON object, or the whole
text. -/
def errorMessage (body : List UInt8) : String :=
  let field : Json.RecordField (Option String) :=
    ⟨"message", fun _ => do return some (← Json.wantText)⟩
  match Json.whole (Json.record [field] none) body with
  | .ok (some message) => message
  | _ => String.ofList (trim (Utf8.decode body))

/-- Something that always answers. -/
def always {α : Type} (m : Dialogue α) : Asking α := ExceptT.lift m

/-- All content of a body. -/
def collect (body : Body) : Asking (List UInt8) :=
  match body.collect with
  | none => always .never
  | some (.ok bs) => return bs
  | some (.error fault) => throw fault

/-- Takes the daemon's reply to a request. -/
def exchange (r : Request) : Dialogue Reply := fun c =>
  let (reply, daemon) := c.daemon.reply r
  ({ delays := reply.before, result := some reply }, { c with daemon, asked := r :: c.asked })

/-- What keeps a request from being made, if anything does. -/
def obstacle? (r : Request) : Dialogue (Option Fault) := fun c =>
  let fault := match c.obstacle with
    | some kind => some (.connect c.endpoint.shown kind)
    | none => if Request.maxPath < r.pathChars.length then some .request else none
  ({ result := some fault }, c)

/-- Makes a request and looks at the status of the answer. -/
def get (r : Request) : Asking Content := do
  if let some fault ← always (obstacle? r) then throw fault
  let reply ← always (exchange r)
  match reply.answer with
  | .silence => always .never
  | .failure => throw .http
  | .response response =>
    if response.isSuccess then return { body := response.body, atEnd := reply.atEnd }
    if response.status = 404 then throw (.notFound r.name)
    throw (.status response.status (errorMessage (← collect response.body)))

/-- What the daemon tells about a container. -/
def inspect (name : String) : Asking Container := do
  let content ← get (.inspect name)
  match Container.read (← collect content.body) with
  | .ok container => return container
  | .error _ => throw .decode

/-- What a container is doing. -/
def phase (name : String) : Asking Phase := fun c =>
  let (call, c) := inspect name c
  ({ call with result := call.result.map fun
    | .ok container => .ok container.phase
    | .error (.notFound _) => .ok .missing
    | .error fault => .error fault }, c)

/-- Has a container ever run? -/
def hasStarted (name : String) : Asking Bool := do
  return (← inspect name).hasStarted

/-- Opens the log of a container. -/
def openLog (name : String) (options : StreamOptions) : Asking (LogStream × List Delay) := do
  let container ← inspect name
  let content ← get (.logs name options container.started)
  return (LogStream.start content.body container.terminal, content.atEnd)

/-- Looks at the phase for as long as the watch wants to know it. -/
def inspectWhile (name : String) (wanted : Phase → Bool) : Nat → Watch → Dialogue Watch
  | 0, w => .result w
  | fuel + 1, w =>
    match w.stage with
    | .inspecting => do
      let phase ← (phase name).run.unlessCancelled
      inspectWhile name wanted fuel (w.handle wanted (.inspected phase))
    | _ => .result w

/-- Looks at the phase, at first and then at each event that is already there. -/
def inspectAll (name : String) (wanted : Phase → Bool) (w : Watch) : Dialogue Watch :=
  inspectWhile name wanted (w.lines.held.length + 1) w

/-- Listens to the pieces of the events. -/
def listen (name : String) (wanted : Phase → Bool) : List Piece → Watch → Dialogue Watch
  | [], w => .result w
  | piece :: rest, w =>
    match w.stage with
    | .listening => do
      let w ← inspectAll name wanted (w.handle wanted (.heard piece))
      listen name wanted rest w
    | _ => .result w

/-- What a watch is told when there are no more pieces. -/
def finish (wanted : Phase → Bool) (content : Content) (w : Watch) : Dialogue Watch :=
  match w.stage, content.body.ending with
  | .listening, .complete => .result (w.handle wanted .ended)
  | .listening, .broken => .result (w.handle wanted .broke)
  | .listening, .silent => do
    Dialogue.wait content.atEnd
    .never
  | _, _ => .result w

/-- Waits until a container is in a phase that is wanted. -/
def watch (name : String) (wanted : Phase → Bool) : Dialogue (Except WatchFault Unit) := do
  match ← (get (.events name)).run.unlessCancelled with
  | .error fault => return .error (.failed fault)
  | .ok content =>
    let w := Watch.handle wanted {} (.subscribed (.ok ()))
    let w ← inspectAll name wanted w
    let w ← listen name wanted content.body.pieces w
    let w ← finish wanted content w
    match w.result? with
    | some result => return result
    | none => .never

end Client

namespace LogStream

/-- Bytes of a body that have not been read. -/
def unread (s : LogStream) : Nat :=
  s.body.pieces.foldl (fun size piece => match piece with
    | .data bs => size + bs.length
    | .trailer => size) 0

/-- The reads of a stream up to the first that gives no line. If none is left, the last read lasts
as long as `atEnd`. -/
def script (s : LogStream) (atEnd : List Delay) : Script :=
  (s.readMany (s.unread + 1) 1).map (fun o => { result := some o }) ++ [{ delays := atEnd }]

end LogStream

/-- Logs and watches of a daemon's containers. -/
def Client.backend : Backend Connection where
  openStream c name options :=
    let (call, c) := (Client.openLog name options).run c
    ({ call with result := call.result.map fun
      | .ok (stream, atEnd) => .ok (stream.script atEnd)
      | .error fault => .error fault }, c)
  awaitRunning c name := Client.watch name (· == .running) c

end Chronicle
