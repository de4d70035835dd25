import Chronicle.Toml.Scalar
import Chronicle.Toml.Tree
/-!
# Documents of TOML

Values, and the statements of a document: entries, headers of tables and headers of arrays of
tables. `Toml.read?` gives the table that a text stands for.
-/

namespace Chronicle.Toml

open Scan

/-- The elements of an array up to its closing bracket. -/
def elements (item : Scan Datum) : Nat → Scan (List Datum)
  | 0 => failure
  | fuel + 1 => do
    gap
    if ← taken [']'] then return []
    let x ← item
    gap
    if ← taken [','] then return x :: (← elements item fuel)
    char ']'
    return [x]

/-- The name and the value of an entry. -/
def entry (item : Scan Datum) : Scan (List String × Datum) := do
  let k ← key
  spaces
  char '='
  spaces
  let x ← item
  return (k, x)

/-- An entry among others. -/
def addEntry (e : List String × Datum) (es : Entries) : Option Entries :=
  match e.1.getLast? with
  | some last => insert e.1.dropLast last e.2 es
  | none => none

/-- The entries of an inline table up to its closing bracket. -/
def inlineEntries (item : Scan Datum) : Nat → Entries → Scan Entries
  | 0, _ => failure
  | fuel + 1, es => do
    gap
    if ← taken ['\x7d'] then return es
    let e ← entry item
    match addEntry e es with
    | none => failure
    | some es =>
      gap
      if ← taken [','] then inlineEntries item fuel es
      else
        char '\x7d'
        return es

/-- A value with at most `depth` brackets around its innermost part. -/
def value : Nat → Scan Datum
  | 0 => do
    match ← peek with
    | some '"' => return .text (← anyString)
    | some '\'' => return .text (← anyString)
    | _ => scalar
  | depth + 1 => do
    match ← peek with
    | some '"' => return .text (← anyString)
    | some '\'' => return .text (← anyString)
    | some '[' =>
      let _ ← next
      return .array (← elements (value depth) ((← get).length + 1))
    | some '\x7b' =>
      let _ ← next
      let es ← inlineEntries (value depth) ((← get).length + 1) []
      return (Node.table .itself es).datum
    | _ => scalar

/-- A header that has been read. -/
structure Header where
  path : List String
  key : String
  isArray : Bool
deriving DecidableEq, Repr

/-- A document that is being read: the complete tables, the header of the current one and its
entries so far. -/
structure Draft where
  root : Entries := []
  header : Option Header := none
  current : Entries := []

namespace Draft

/-- Puts the current table where it belongs. -/
def close (d : Draft) : Option Entries :=
  match d.header with
  | none => some d.current
  | some h =>
    if h.isArray then pushTable h.path h.key d.current d.root
    else closeTable h.path h.key d.current d.root

/-- Begins the table of a header. -/
def begin (d : Draft) (h : Header) : Option Draft := do
  let root ← d.close
  if h.isArray then return { root, header := some h }
  let (current, root) ← openTable h.path h.key root
  return { root, header := some h, current }

end Draft

/-- The header of a table or of an array of tables. -/
def header : Scan Header := do
  char '['
  let isArray ← taken ['[']
  spaces
  let k ← key
  spaces
  char ']'
  if isArray then char ']'
  match k.getLast? with
  | some last => return { path := k.dropLast, key := last, isArray }
  | none => failure

/-- A statement. -/
def statement (d : Draft) : Scan Draft := do
  spaces
  match ← peek with
  | none => return d
  | some '[' =>
    match d.begin (← header) with
    | some d => return d
    | none => failure
  | some c =>
    if c = '#' ∨ c = '\n' ∨ c = '\r' then return d
    else
      let e ← entry (value maxDepth)
      match addEntry e d.current with
      | some current => return { d with current }
      | none => failure

/-- The statements up to the end of the text. -/
def statements : Nat → Draft → Scan Draft
  | 0, _ => failure
  | fuel + 1, d => do
    match ← peek with
    | none => return d
    | some _ =>
      let d ← statement d
      statementEnd
      statements fuel d

/-- A text without the mark that may stand at its start. -/
def withoutMark : List Char → List Char
  | '\uFEFF' :: rest => rest
  | s => s

/-- The table a text stands for. -/
def read? (s : List Char) : Option (List (String × Datum)) := do
  let s := withoutMark s
  let (draft, _) ← statements (s.length + 1) {} s
  return Node.entriesDatum (← draft.close)

end Chronicle.Toml
