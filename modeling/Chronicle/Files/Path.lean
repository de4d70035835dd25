/-!
# Paths

A path as it is written: parts between slashes. Empty parts and single dots stay in place, two dots
lead up, and any other part is a name.
-/

namespace Chronicle

/-- A path as it is written. -/
abbrev Path := List Char

/-- The files that can be read: the content of each by its path. -/
abbrev Files := Path → Option (List UInt8)

namespace Path

/-- The parts of a path. -/
def parts (path : Path) : List (List Char) := path.splitOn '/'

/-- Does the part stay in place? -/
def staysInPlace (part : List Char) : Bool := part == [] || part == ['.']

/-- Does the part lead up? -/
def leadsUp (part : List Char) : Bool := part == ['.', '.']

/-- The name a path ends with. There is none if the path leads up at its end, or nowhere. -/
def name? (path : Path) : Option (List Char) :=
  ((path.parts.filter (!staysInPlace ·)).getLast?).filter (!leadsUp ·)

/-- The extension of a name: what follows its last dot, if something stands before that. -/
def extension? (name : List Char) : Option (List Char) :=
  let after := (name.reverse.takeWhile (· != '.')).reverse
  if after.length + 1 < name.length then some after else none

/-- A path without what stays in place at its end. -/
def trimEnd (path : Path) : Path := (go path.reverse).reverse
where
  /-- Takes the end off a path that is written backwards. -/
  go : List Char → List Char
    | '/' :: rest => go rest
    | '.' :: '/' :: rest => go rest
    | s => s

/-- A path with another extension. A name that has none gets it. To a name that has one it is added,
at the end of the path as it is written; after a slash it is added to the name `.placeholder`. There
is none for a path without a name. -/
def extended? (path : Path) (extension : List Char) : Option Path := do
  let name ← path.name?
  match extension? name with
  | none => return path.trimEnd ++ '.' :: extension
  | some _ =>
    let hidden := if path.getLast? = some '/' then ".placeholder".toList else []
    return path ++ hidden ++ '.' :: extension

end Path

end Chronicle
