import Chronicle.Docker.Endpoint
import Chronicle.Docker.Request
import Chronicle.Docker.Response
/-!
# Daemons

A daemon as the answers it will give. Each kind of request about a container has a list of replies:
the first request gets the first, and the last one is given again and again. `Connection` is a
client's view of a daemon: where it listens, whether it can be reached, and what it has been asked.
-/

namespace Chronicle

/-- What comes back for a request. -/
inductive Answer where
  | response (r : Response)
  /-- The connection fails, or what comes back is no answer. -/
  | failure
  | silence
deriving DecidableEq, Repr

namespace Answer

/-- The answer in the bytes of a connection that is then closed. -/
def ofBytes (bs : List UInt8) : Answer :=
  match Response.ofBytes? bs with
  | some r => .response r
  | none => .failure

/-- The answer with a status and some bytes, of which so many are announced but never come. After a
provisional status the bytes are taken for the real answer. -/
def ofContent (status : Nat) (bs : List UInt8) (missing : Nat) : Answer :=
  if !Head.isStatus status then .failure
  else if Response.isProvisional status then ofBytes bs
  else .response (Response.make status (Body.ofBytes bs missing))

/-- The answer with a status and a body in chunks. After a provisional status no chunk can be the
beginning of the real answer. -/
def ofChunks (status : Nat) (body : Body) : Answer :=
  if !Head.isStatus status then .failure
  else if !Response.isProvisional status then .response (Response.make status body)
  else if body = { ending := .silent } then .silence
  else .failure

end Answer

/-- A reply: what happens before the answer, the answer, and what happens before its body ends. -/
structure Reply where
  before : List Delay := []
  answer : Answer
  atEnd : List Delay := []
deriving DecidableEq, Repr

/-- The answer of a daemon that knows no such container. -/
def Reply.unknown : Reply where
  answer := .response { status := 404, body := {} }

/-- What a daemon replies about one container. -/
structure Replies where
  inspect : List Reply := []
  logs : List Reply := []
deriving DecidableEq, Repr

/-- What a daemon will reply. -/
structure Daemon where
  containers : List (String × Replies) := []
  events : List Reply := []
deriving DecidableEq, Repr

namespace Daemon

/-- Takes the next reply. The last one stays. -/
def serve : List Reply → Reply × List Reply
  | [] => (.unknown, [])
  | [r] => (r, [r])
  | r :: rest => (r, rest)

/-- Takes the next reply about a container. -/
def serveContainer (name : String) (list : Replies → List Reply)
    (set : Replies → List Reply → Replies) :
    List (String × Replies) → Reply × List (String × Replies)
  | [] => (.unknown, [])
  | (n, replies) :: rest =>
    if n = name then
      let (reply, left) := serve (list replies)
      (reply, (n, set replies left) :: rest)
    else
      let (reply, rest) := serveContainer name list set rest
      (reply, (n, replies) :: rest)

/-- The reply to a request, and the daemon after it. -/
def reply (d : Daemon) : Request → Reply × Daemon
  | .inspect name =>
    let (reply, containers) := serveContainer name (·.inspect) (fun r inspect => { r with inspect })
      d.containers
    (reply, { d with containers })
  | .logs name _ _ =>
    let (reply, containers) := serveContainer name (·.logs) (fun r logs => { r with logs })
      d.containers
    (reply, { d with containers })
  | .events _ =>
    let (reply, events) := serve d.events
    (reply, { d with events })

end Daemon

/-- What a client has to do with a daemon. -/
structure Connection where
  endpoint : Endpoint
  /-- Why no connection can be made, if none can. -/
  obstacle : Option SystemFault := none
  daemon : Daemon := {}
  /-- The requests made, the latest first. -/
  asked : List Request := []

end Chronicle
