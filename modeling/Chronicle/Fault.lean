import Chronicle.Text.Quoted
/-!
# What goes wrong

`Fault` says why logs could not be read, `WatchFault` why waiting for a container ended early. A
fault has a message and a list of causes: its own message first, then what lies under it. A cause
that is no text of this library is named by its kind.
-/

namespace Chronicle

/-- The kinds of failure an operating system reports. -/
inductive SystemFault where
  | networkUnreachable
  | connectionRefused
  | notFound
  | notADirectory
  | invalidInput
  | uncategorized
deriving DecidableEq, Repr

/-- One link of a report: a text, or the kind of a failure under it. -/
inductive Cause where
  | said (text : String)
  | http
  | json
  | configuration
  | system (kind : SystemFault)
deriving DecidableEq, Repr

/-- Why logs could not be read. -/
inductive Fault where
  | invalidHost (host : String)
  | connect (address : String) (kind : SystemFault)
  | http
  | request
  | notFound (container : String)
  | status (code : Nat) (message : String)
  | decode
  | frame (reason : String)
  | other (text : String)
deriving DecidableEq, Repr

namespace Fault

/-- What a user is told. -/
def message : Fault → String
  | .invalidHost host => "invalid docker host " ++ Quoted.quote host
  | .connect address _ => "connect to docker daemon at " ++ address
  | .http => "docker request failed"
  | .request => "build docker request"
  | .notFound container => "no such container: " ++ container
  | .status code text => "docker api returned " ++ toString code ++ ": " ++ text
  | .decode => "decode docker response"
  | .frame reason => "malformed log frame: " ++ reason
  | .other text => text

/-- The message and what lies under it. -/
def causes (f : Fault) : List Cause :=
  .said f.message :: match f with
    | .connect _ kind => [.system kind]
    | .http => [.http]
    | .decode => [.json]
    | .request => [.http]
    | _ => []

end Fault

/-- Why waiting for a container ended before it was in the phase waited for. -/
inductive WatchFault where
  | cancelled
  | closed
  | failed (fault : Fault)
deriving DecidableEq, Repr

/-- What a user is told. -/
def WatchFault.message : WatchFault → String
  | .cancelled => "wait cancelled"
  | .closed => "lifecycle watch closed before the condition was met"
  | .failed fault => fault.message

end Chronicle
