import Chronicle.Text.Decimal
import Chronicle.Text.Scan
/-!
# Key paths

A key at the top of a layer may be a path: names with dots between them, and indices in brackets. A
key that is no path stands for itself.
-/

namespace Chronicle

/-- One step down from a value. -/
inductive KeyStep where
  | child (name : String)
  /-- An element of an array, counted from its end if the index is negative. -/
  | index (i : Int)
deriving DecidableEq, Repr

namespace KeyPath

open Scan

/-- Characters of a name. -/
def isNameChar (c : Char) : Bool := c.isAlphanum || c == '_' || c == '-'

/-- Space and tab. -/
def isSpace (c : Char) : Bool := c == ' ' || c == '\t'

/-- A name. -/
def name : Scan KeyStep := do
  let cs ← row isNameChar
  guard (cs ≠ [])
  return .child (String.ofList cs)

/-- An index in brackets, after the opening one. -/
def index : Scan KeyStep := do
  let _ ← row isSpace
  let minus ← taken ['-']
  let ds ← row Decimal.isDigit
  let _ ← row isSpace
  char ']'
  match Decimal.int64? (if minus then '-' :: ds else ds) with
  | some i => return .index i
  | none => failure

/-- The steps after the first. -/
def steps : Nat → Scan (List KeyStep)
  | 0 => failure
  | fuel + 1 => do
    match ← peek with
    | none => return []
    | some _ =>
      let step ← match ← next with
        | '.' => name
        | '[' => index
        | _ => failure
      return step :: (← steps fuel)

/-- A whole path. -/
def path : Scan (List KeyStep) := do
  let first ← name
  return first :: (← steps ((← get).length + 1))

/-- The steps a key stands for. -/
def ofKey (key : String) : List KeyStep :=
  match path key.toList with
  | some (steps, _) => steps
  | none => [.child key]

end KeyPath

end Chronicle
