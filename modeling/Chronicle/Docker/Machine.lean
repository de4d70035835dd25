import Chronicle.Docker.Endpoint
import Chronicle.Files.Tree
import Chronicle.Text.Decimal
import Chronicle.Text.Hex
/-!
# Machines

What of a machine decides which endpoints can be reached: its file tree, where sockets are, and the
addresses at which something listens. Beyond these there is no network.
-/

namespace Chronicle

/-- A machine. -/
structure Machine where
  tree : FileTree := {}
  /-- The addresses at which something listens. -/
  listening : List String := []

namespace Machine

/-- The host and the port of an address, divided at its last colon. -/
def divide? (address : List Char) : Option (List Char × List Char) :=
  let port := (address.reverse.takeWhile (· != ':')).reverse
  if port.length < address.length then
    some (address.take (address.length - port.length - 1), port)
  else none

/-- The number that a row of digits stands for in a base, if there are any and all of them are. -/
def digitsIn? (base : Nat) (ds : List Char) : Option Nat :=
  if ds = [] then none
  else ds.foldlM (fun n d => ((Hex.digit? d).filter (· < base)).map (n * base + ·)) 0

/-- A number in an address. The base is sixteen after `0x`, eight after another zero, else ten. -/
def numeral? : List Char → Option Nat
  | '0' :: 'x' :: ds => digitsIn? 16 ds
  | '0' :: 'X' :: ds => digitsIn? 16 ds
  | '0' :: d :: ds => digitsIn? 8 (d :: ds)
  | ds => digitsIn? 10 ds

/-- Is the text an address of four bytes in up to four numbers, the last of which stands for all
bytes that are left? -/
def isNumeric (host : List Char) : Bool :=
  match ((host.splitOn '.').mapM numeral?).map List.reverse with
  | some (last :: others) =>
    others.length < 4 && others.all (· < 256) && last < Nat.pow 256 (4 - others.length)
  | _ => false

/-- Is the host known without asking anyone? -/
def isKnown (host : List Char) : Bool :=
  host == "localhost".toList || host.head? == some '[' || host.contains ':' || isNumeric host

/-- Why no connection can be made to an address, if none can. -/
def networkObstacle? (m : Machine) (address : String) : Option SystemFault :=
  if m.listening.contains address then none
  else match divide? address.toList with
    | none => some .invalidInput
    | some (host, port) =>
      if (Decimal.unsigned? 65535 port).isNone || host.contains '\x00' then some .invalidInput
      else if isKnown host then some .networkUnreachable
      else some .uncategorized

/-- Why no connection can be made to an endpoint, if none can. -/
def obstacle? (m : Machine) : Endpoint → Option SystemFault
  | .socket path => m.tree.obstacle? path
  | .network address => m.networkObstacle? address

end Machine

end Chronicle
