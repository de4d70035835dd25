import Chronicle.Data.Datum
import Chronicle.Settings.KeyPath
/-!
# Layers

Settings come in layers, each laid over those before it. Tables are merged key by key; anything else
replaces what was there.
-/

namespace Chronicle

/-- One source of settings: values under keys that may be paths. -/
abbrev Layer := List (String × Datum)

namespace Datum

mutual

/-- A value laid over another. -/
def overlay (old : Datum) : Datum → Datum
  | .table es => .table (overlayEntries old.entries es)
  | new => new

/-- Entries laid over entries, one after the other. -/
def overlayEntries (old : List (String × Datum)) : List (String × Datum) → List (String × Datum)
  | [] => old
  | (key, new) :: rest => overlayEntries (put key (overlay ((get? old key).getD .nil) new) old) rest

end

/-- The place of an index in an array of a length, and how many elements have to be put in front of
the array first. -/
def position (length : Nat) (i : Int) : Nat × Nat :=
  if 0 ≤ i then (i.toNat, 0)
  else if i.natAbs ≤ length then (length - i.natAbs, 0)
  else (0, i.natAbs - length)

/-- Changes the element at a place. Places up to it that are missing are filled with nothing. -/
def setElement (xs : List Datum) (place : Nat) (change : Datum → Datum) : List Datum :=
  let xs := xs ++ List.replicate (place + 1 - xs.length) .nil
  xs.modify place change

/-- Changes the value at the end of a path. What stands in the way of the path is replaced. -/
def change : List KeyStep → (Datum → Datum) → Datum → Datum
  | [], f, d => f d
  | .child name :: rest, f, d =>
    .table (put name (change rest f ((get? d.entries name).getD .nil)) d.entries)
  | .index i :: rest, f, d =>
    let (place, before) := position d.elements.length i
    .array (setElement (List.replicate before .nil ++ d.elements) place (change rest f))

end Datum

namespace Layer

/-- Lays one entry over a value. -/
def putEntry (base : Datum) (entry : String × Datum) : Datum :=
  Datum.change (KeyPath.ofKey entry.1) (fun old => old.overlay entry.2) base

/-- A layer laid over a value. -/
def overlay (base : Datum) (layer : Layer) : Datum := layer.foldl putEntry base

/-- Layers laid over each other, the first at the bottom. -/
def stack (layers : List Layer) : List (String × Datum) :=
  (layers.foldl overlay (.table [])).entries

end Layer

end Chronicle
