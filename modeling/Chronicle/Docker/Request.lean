import Chronicle.Docker.Container
import Chronicle.Json.Text
import Chronicle.Run.Backend
import Chronicle.Text.Percent
/-!
# Requests

What is asked of a Docker daemon, and the path of each question. The name of a container is always
encoded, so that no name can change what is asked.
-/

namespace Chronicle

/-- A question to a daemon about a container. -/
inductive Request where
  | inspect (name : String)
  | logs (name : String) (options : StreamOptions) (started : Option Instant)
  /-- What happens to the container from now on. -/
  | events (name : String)
deriving DecidableEq, Repr

namespace Request

/-- The container a request is about. -/
def name : Request → String
  | .inspect name => name
  | .logs name _ _ => name
  | .events name => name

/-- The start of all paths about a container. -/
def containerPath (name : String) : List Char := "/containers/".toList ++ Percent.encode name

/-- A time as whole seconds and nine digits of nanoseconds. -/
def bound (i : Instant) : List Char :=
  Decimal.signed i.seconds ++ '.' :: Decimal.padded 9 i.nanos

/-- Which part of the log is asked for. An earlier run ends where the last one started. -/
def range (options : StreamOptions) (started : Option Instant) : List Char :=
  (if options.previous then
    "&follow=0".toList ++ match started with
      | some time => "&until=".toList ++ bound time
      | none => []
  else if options.follow then "&follow=1".toList
  else "&follow=0".toList) ++
  match options.since with
  | some time => "&since=".toList ++ bound time
  | none => []

/-- Which events are asked for: those of one container. -/
def filter (name : String) : List Char :=
  "\x7b\"container\":[".toList ++ Json.quote name ++ "],\"type\":[\"container\"]\x7d".toList

/-- The path and the query of a request. -/
def pathChars : Request → List Char
  | .inspect name => containerPath name ++ "/json".toList
  | .logs name options started =>
    containerPath name ++ "/logs?stdout=1&stderr=1&timestamps=1".toList ++ range options started
  | .events name => "/events?filters=".toList ++ Percent.encode (String.ofList (filter name))

/-- The path and the query of a request. -/
def path (r : Request) : String := String.ofList r.pathChars

/-- How long a path may be. -/
def maxPath : Nat := 65534

end Request

end Chronicle
