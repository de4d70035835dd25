/-!
# Scanners

A scanner takes something off the front of a text, or fails.
-/

namespace Chronicle

/-- Reads a piece of a text and leaves the rest. -/
abbrev Scan := StateT (List Char) Option

namespace Scan

/-- One given character. -/
def char (c : Char) : Scan Unit
  | d :: rest => if d = c then some ((), rest) else none
  | [] => none

/-- Given characters in a row. -/
def chars : List Char → Scan Unit
  | [] => return
  | c :: rest => do char c; chars rest

/-- The next character. -/
def next : Scan Char
  | c :: rest => some (c, rest)
  | [] => none

/-- The next character, which stays. -/
def peek : Scan (Option Char) := fun s => some (s.head?, s)

/-- The longest row of characters of a kind. -/
def row (is : Char → Bool) : Scan (List Char) := fun s => some (s.takeWhile is, s.dropWhile is)

/-- Takes a text that may stand here. Tells whether it does. -/
def taken (cs : List Char) : Scan Bool := fun s =>
  match cs.isPrefixOf? s with
  | some rest => some (true, rest)
  | none => some (false, s)

/-- The end of the text. -/
def done : Scan Unit
  | [] => some ((), [])
  | _ => none

end Scan

end Chronicle
