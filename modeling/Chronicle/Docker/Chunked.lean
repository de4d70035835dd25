import Chronicle.Docker.Head
import Chronicle.Stream.LogStream
import Chronicle.Text.Hex
/-!
# Bodies in chunks

A body may come in chunks, each after a line with its size. The last chunk is empty; after it
trailing fields may stand, up to an empty line. What follows a size on its line is passed over.
-/

namespace Chronicle.Chunked

/-- How many bytes may follow sizes on their lines, in one body, less one. -/
def maxExtensions : Nat := 16384

/-- How many trailing fields a body may have. -/
def maxTrailers : Nat := 100

/-- How many bytes the trailing fields may have, less one. -/
def maxTrailerBytes : Nat := 16384

/-- The line of a size. -/
structure SizeLine where
  size : Nat
  /-- How many bytes follow the size and its semicolon. -/
  extension : Nat
  rest : List UInt8

/-- The end of a line, which has to have its carriage return. -/
def lineEnd? : List UInt8 → Option (List UInt8)
  | 13 :: 10 :: rest => some rest
  | _ => none

/-- Reads the line of a size. An extension goes up to the next carriage return. -/
def sizeLine? (bs : List UInt8) : Option SizeLine := do
  let isHex (b : UInt8) : Bool := (Hex.digit? (Head.latin b)).isSome
  let ds := bs.takeWhile isHex
  guard (ds ≠ [])
  let size ← Hex.value? (ds.map Head.latin)
  guard (size ≤ Decimal.maxU64)
  match (bs.dropWhile isHex).dropWhile fun b => Head.isGap (Head.latin b) with
  | 59 :: more =>
    let extension := more.takeWhile (· != carriageReturn)
    guard (!extension.contains newline)
    let rest ← lineEnd? (more.dropWhile (· != carriageReturn))
    return { size, extension := extension.length, rest }
  | more => return { size, extension := 0, rest := ← lineEnd? more }

/-- The lines after the last chunk up to an empty one, each up to its first carriage return, and how
many there are before the empty one. -/
def trailerLines? : Nat → List UInt8 → Option (List UInt8 × Nat)
  | 0, _ => none
  | fuel + 1, bs =>
    match bs with
    | [] => none
    | 13 :: more => (lineEnd? (13 :: more)).map fun _ => ([13, 10], 0)
    | first :: more => do
      let rest ← lineEnd? (more.dropWhile (· != carriageReturn))
      let (lines, count) ← trailerLines? fuel rest
      return (first :: more.takeWhile (· != carriageReturn) ++ 13 :: 10 :: lines, count + 1)

/-- What follows the last chunk: nothing, or trailing fields. -/
def trailers? (bs : List UInt8) : Option (List Piece) := do
  let (lines, count) ← trailerLines? (bs.length + 1) bs
  if count = 0 then return []
  else
    guard (count ≤ maxTrailers ∧ lines.length < maxTrailerBytes)
    let _ ← Head.fields? count lines
    return [.trailer]

/-- A body in chunks, some bytes of whose size lines have been passed over. -/
def bodyFrom : Nat → Nat → List UInt8 → Body
  | 0, _, _ => { ending := .broken }
  | fuel + 1, passed, bs =>
    match sizeLine? bs with
    | none => { ending := .broken }
    | some line =>
      let passed := passed + line.extension
      if maxExtensions ≤ passed then { ending := .broken }
      else if line.size = 0 then
        match trailers? line.rest with
        | some pieces => { pieces }
        | none => { ending := .broken }
      else
        let content := line.rest.take line.size
        let here := if content = [] then [] else [Piece.data content]
        match lineEnd? (line.rest.drop line.size) with
        | some more =>
          let b := bodyFrom fuel passed more
          { b with pieces := here ++ b.pieces }
        | none => { pieces := here, ending := .broken }

/-- The body in chunks that some bytes are. -/
def body (bs : List UInt8) : Body := bodyFrom (bs.length + 1) 0 bs

end Chronicle.Chunked
