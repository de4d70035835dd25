import Chronicle.Fault
/-!
# Endpoints

Where a Docker daemon listens: a socket in the file system, or a host and a port.
-/

namespace Chronicle

/-- Where a daemon listens. -/
inductive Endpoint where
  | socket (path : String)
  | network (address : String)
deriving DecidableEq, Repr

namespace Endpoint

/-- A text without the slashes at its end. -/
def withoutSlashes (s : List Char) : List Char := (s.reverse.dropWhile (· == '/')).reverse

/-- An endpoint, unless it is empty. -/
def nonempty (host : String) (make : String → Endpoint) (s : List Char) : Except Fault Endpoint :=
  if s = [] then .error (.invalidHost host) else .ok (make (String.ofList s))

/-- Reads the address of a daemon: `unix://` and a path, or `tcp://` or `http://` and an address. -/
def read (host : String) : Except Fault Endpoint :=
  let s := host.toList
  match "unix://".toList.isPrefixOf? s with
  | some path => nonempty host .socket path
  | none =>
    match ("tcp://".toList.isPrefixOf? s).or ("http://".toList.isPrefixOf? s) with
    | some address => nonempty host .network (withoutSlashes address)
    | none => .error (.invalidHost host)

/-- The address as it is shown in messages. -/
def shown : Endpoint → String
  | .socket path => path
  | .network address => address

/-- What requests name as their host. -/
def hostHeader : Endpoint → String
  | .socket _ => "docker"
  | .network address => address

end Endpoint

end Chronicle
