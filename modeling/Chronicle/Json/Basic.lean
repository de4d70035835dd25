/-!
# Reading JSON

A reader takes a value off the front of a row of bytes. What stops it is a `Defect`: the text is not
JSON, it is JSON of the wrong kind, or it ends too early. The first defect in reading order counts.
-/

namespace Chronicle.Json

/-- Why a text could not be read. -/
inductive Defect where
  | malformed
  /-- JSON, but not of the kind wanted. -/
  | mismatch
  | cutShort
deriving DecidableEq, Repr

/-- Reads from the front of a row of bytes and leaves the rest. -/
abbrev Reader := StateT (List UInt8) (Except Defect)

/-- The byte of an ASCII character. -/
def byte (c : Char) : UInt8 := UInt8.ofNat c.toNat

/-- Space, tab, line feed and carriage return. -/
def isBlank (b : UInt8) : Bool :=
  b == byte ' ' || b == byte '\t' || b == byte '\n' || b == byte '\r'

/-- Skips white space. -/
def blanks : Reader Unit := fun bs => .ok ((), bs.dropWhile isBlank)

/-- The next byte as a character. Bytes that are not ASCII give characters that mean nothing. -/
def peek : Reader (Option Char) := fun bs => .ok (bs.head?.map fun b => Char.ofNat b.toNat, bs)

/-- Drops a byte. -/
def advance : Reader Unit := fun bs => .ok ((), bs.tail)

/-- The next byte, which has to be there. -/
def next : Reader Char
  | [] => .error .cutShort
  | b :: rest => .ok (Char.ofNat b.toNat, rest)

/-- What comes next once white space is skipped; it has to be there. -/
def ahead : Reader Char := do
  blanks
  match ← peek with
  | none => throw .cutShort
  | some c => return c

/-- A given row of characters. -/
def word : List Char → Reader Unit
  | [] => return
  | c :: rest => do
    if (← next) = c then word rest else throw .malformed

/-- A given character after white space. -/
def mark (c : Char) : Reader Unit := do
  if (← ahead) = c then advance else throw .malformed

/-- Reads a whole text. -/
def whole {α : Type} (r : Reader α) (bs : List UInt8) : Except Defect α :=
  match r bs with
  | .error d => .error d
  | .ok (a, rest) => if rest.all isBlank then .ok a else .error .malformed

end Chronicle.Json
