import Chronicle.Fault
import Chronicle.Files.Path
import Chronicle.Text.Utf8
/-!
# File trees

A tree of files as a list of what is where. `FileTree.find` follows a path, `FileTree.files` reads
files, and `FileTree.obstacle?` says why no connection can be made to a socket.
-/

namespace Chronicle

/-- A place in a tree: the names that lead to it from the root. -/
abbrev Place := List (List Char)

/-- What can be in a place. -/
inductive Inode where
  | directory
  | file (content : List UInt8)
  /-- A socket at which something listens. -/
  | socket
  | device
deriving DecidableEq, Repr

/-- A tree of files. -/
structure FileTree where
  /-- Where paths begin that do not begin at the root. -/
  here : Place := []
  inodes : List (Place × Inode) := []

namespace FileTree

/-- What is in a place. Where something lies below there is a directory. -/
def at? (t : FileTree) (place : Place) : Option Inode :=
  match t.inodes.lookup place with
  | some inode => some inode
  | none =>
    if place = [] ∨ place = t.here ∨ t.inodes.any (fun i => place.isPrefixOf i.1) then
      some .directory
    else none

/-- Follows the parts of a path from a place. Each part has to be looked for in a directory. -/
def walk (t : FileTree) (place : Place) : List (List Char) → Except SystemFault Place
  | [] => .ok place
  | part :: rest =>
    match t.at? place with
    | none => .error .notFound
    | some .directory =>
      if Path.staysInPlace part then walk t place rest
      else if Path.leadsUp part then walk t place.dropLast rest
      else walk t (place ++ [part]) rest
    | some _ => .error .notADirectory

/-- What a path leads to. -/
def find (t : FileTree) (path : Path) : Except SystemFault Inode := do
  let place ← t.walk (if path.head? = some '/' then [] else t.here) path.parts
  match t.at? place with
  | some inode => return inode
  | none => throw .notFound

/-- The files of a tree. -/
def files (t : FileTree) : Files := fun path =>
  match t.find path with
  | .ok (.file content) => some content
  | _ => none

/-- How many bytes the path of a socket may have. -/
def maxSocketPath : Nat := 107

/-- Why no connection can be made to the socket of a path, if none can. A path that begins with a
zero character is a name outside the tree, at which nothing listens. -/
def obstacle? (t : FileTree) (path : String) : Option SystemFault :=
  let short (s : List Char) : Bool := (Utf8.encode s).length ≤ maxSocketPath
  match path.toList with
  | '\x00' :: name => if short name then some .connectionRefused else some .invalidInput
  | s =>
    if s.contains '\x00' || !short s then some .invalidInput
    else match t.find s with
      | .ok .socket => none
      | .ok _ => some .connectionRefused
      | .error fault => some fault

end FileTree

end Chronicle
