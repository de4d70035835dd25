import Chronicle.Data.Datum
/-!
# Trees of TOML

The tables of a document while it is read. A table may be defined once; which statements may still
add to it depends on what has made it.
-/

namespace Chronicle.Toml

/-- What has made a table. -/
inductive Origin where
  /-- A header of a table inside it. -/
  | header
  /-- A key with dots. -/
  | dotted
  /-- Its own header. -/
  | itself
deriving DecidableEq, Repr

/-- A value of a document: one that is complete, a table, or an array of tables, the last first. -/
inductive Node where
  | closed (value : Datum)
  | table (origin : Origin) (entries : List (String × Node))
  | tables (last : List (String × Node)) (earlier : List (List (String × Node)))

/-- The entries of a table. -/
abbrev Entries := List (String × Node)

namespace Node

mutual

/-- The value of a node. -/
def datum : Node → Datum
  | .closed value => value
  | .table _ entries => .table (entriesDatum entries)
  | .tables last earlier => .array ((.table (entriesDatum last) :: tablesDatum earlier).reverse)

/-- The values of entries. -/
def entriesDatum : List (String × Node) → List (String × Datum)
  | [] => []
  | e :: rest => entryDatum e :: entriesDatum rest

/-- The value of an entry. -/
def entryDatum : String × Node → String × Datum
  | (key, node) => (key, datum node)

/-- The values of tables. -/
def tablesDatum : List (List (String × Node)) → List Datum
  | [] => []
  | es :: rest => .table (entriesDatum es) :: tablesDatum rest

end

end Node

/-- Changes the table at the end of a path. Tables on the way are made if they are missing: by a
key with dots, which may go on only where the table has no header of its own, or by a header. Of an
array of tables the last is meant. -/
def descend {α : Type} (dotted : Bool) (act : Origin → Entries → Option (α × Origin × Entries)) :
    List String → Origin → Entries → Option (α × Origin × Entries)
  | [], origin, es => act origin es
  | key :: path, origin, es => do
    match es.lookup key with
    | none =>
      let made := if dotted then Origin.dotted else Origin.header
      let (a, inside, inner) ← descend dotted act path made []
      return (a, origin, Datum.put key (.table inside inner) es)
    | some (.closed _) => none
    | some (.table inside inner) =>
      if dotted && inside == .itself then none
      else
        let (a, inside, inner) ← descend dotted act path inside inner
        return (a, origin, Datum.put key (.table inside inner) es)
    | some (.tables last earlier) =>
      let (a, _, last) ← descend dotted act path .itself last
      return (a, origin, Datum.put key (.tables last earlier) es)

/-- Adds an entry. Its key must be new. -/
def addNew (key : String) (node : Node) (es : Entries) : Option Entries :=
  match es.lookup key with
  | some _ => none
  | none => some (es ++ [(key, node)])

/-- Adds an entry to a table, which then counts as made by `origin`. -/
def addAs (origin : Origin) (key : String) (node : Node) (es : Entries) :
    Option (Unit × Origin × Entries) :=
  (addNew key node es).map fun es => ((), origin, es)

/-- Adds a value under a key. A table to which a key with dots adds counts as made by that key; it
has no header of its own, before or afterwards. -/
def insert (path : List String) (key : String) (value : Datum) (es : Entries) : Option Entries :=
  let add (origin : Origin) (es : Entries) :=
    if path = [] then addAs origin key (.closed value) es
    else if origin = .itself then none
    else addAs .dotted key (.closed value) es
  (descend (path ≠ []) add path .itself es).map (·.2.2)

/-- Opens the table of a header: a new one, or one that only headers inside it have made. It is
taken out of the document until it is complete. -/
def openTable (path : List String) (key : String) (es : Entries) : Option (Entries × Entries) :=
  (descend false (fun origin es =>
    match es.lookup key with
    | none => some ([], origin, es)
    | some (.table .header inner) => some (inner, origin, es.filter (·.1 != key))
    | some _ => none) path .itself es).map fun (table, _, es) => (table, es)

/-- Puts the table of a header back. -/
def closeTable (path : List String) (key : String) (table : Entries) (es : Entries) :
    Option Entries :=
  (descend false (fun origin es => addAs origin key (.table .itself table) es) path .itself es).map
    (·.2.2)

/-- Adds a table to an array of tables. -/
def pushTable (path : List String) (key : String) (table : Entries) (es : Entries) :
    Option Entries :=
  (descend false (fun origin es =>
    match es.lookup key with
    | none => some ((), origin, es ++ [(key, .tables table [])])
    | some (.tables last earlier) =>
      some ((), origin, Datum.put key (.tables table (last :: earlier)) es)
    | some _ => none) path .itself es).map (·.2.2)

end Chronicle.Toml
