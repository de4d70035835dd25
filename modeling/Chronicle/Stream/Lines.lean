import Chronicle.Text.Utf8
/-!
# Lines

`Splitter` takes bytes as they arrive and gives them back as lines. A line ends at a newline; one
carriage return before it is no part of the line. `splitLines` says the same of a whole input.
-/

namespace Chronicle

/-- The byte that ends a line. -/
def newline : UInt8 := 10

/-- The byte that may stand before the end of a line. -/
def carriageReturn : UInt8 := 13

/-- A line without a carriage return at its end. -/
def chomp (bs : List UInt8) : List UInt8 :=
  if bs.getLast? = some carriageReturn then bs.dropLast else bs

/-- The bytes before the first newline and the bytes after it. -/
def cutAtNewline : List UInt8 → Option (List UInt8 × List UInt8)
  | [] => none
  | b :: rest =>
    if b = newline then some ([], rest)
    else (cutAtNewline rest).map fun (line, rest) => (b :: line, rest)

/-- The complete lines of an input, newlines taken away, and what follows the last newline. -/
def splitLines : List UInt8 → List (List UInt8) × List UInt8
  | [] => ([], [])
  | b :: rest =>
    let (lines, tail) := splitLines rest
    if b = newline then ([] :: lines, tail)
    else match lines with
      | [] => ([], b :: tail)
      | line :: more => ((b :: line) :: more, tail)

/-- Bytes that have arrived and have not been given back. -/
structure Splitter where
  held : List UInt8 := []
deriving DecidableEq, Repr

namespace Splitter

/-- More bytes. -/
def push (s : Splitter) (chunk : List UInt8) : Splitter := ⟨s.held ++ chunk⟩

/-- The next complete line, if there is one. -/
def next? (s : Splitter) : Option (String × Splitter) :=
  (cutAtNewline s.held).map fun (line, rest) => (Utf8.text (chomp line), ⟨rest⟩)

/-- What is left after the last newline, if anything. -/
def takeRest (s : Splitter) : Option String × Splitter :=
  if s.held = [] then (none, s) else (some (Utf8.text s.held), {})

/-- All complete lines. -/
def drain (s : Splitter) : List String × Splitter :=
  let (lines, tail) := splitLines s.held
  (lines.map fun line => Utf8.text (chomp line), ⟨tail⟩)

end Splitter

end Chronicle
