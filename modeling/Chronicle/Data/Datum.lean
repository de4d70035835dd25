import Chronicle.Number.Binary64
/-!
# Data

`Datum` is what a configuration file or a JSON text holds. A table keeps its entries in order and
has one for each key.
-/

namespace Chronicle

/-- A value of a data format. -/
inductive Datum where
  | nil
  | boolean (b : Bool)
  | integer (i : Int)
  | float (x : Binary64)
  | text (s : String)
  | array (elements : List Datum)
  | table (entries : List (String × Datum))
deriving Repr, Inhabited

namespace Datum

/-- The value under a key. -/
def get? {α : Type} (entries : List (String × α)) (key : String) : Option α :=
  entries.lookup key

/-- The entries with a value under a key: in place of the old one, or at the end. -/
def put {α : Type} (key : String) (value : α) : List (String × α) → List (String × α)
  | [] => [(key, value)]
  | (k, v) :: rest => if k = key then (k, value) :: rest else (k, v) :: put key value rest

theorem get?_put_self {α : Type} (key : String) (value : α) (es : List (String × α)) :
    get? (put key value es) key = some value := by
  induction es with
  | nil => simp [put, get?]
  | cons e es ih =>
    obtain ⟨k, v⟩ := e
    by_cases h : k = key
    · simp [put, get?, h]
    · simp only [put, h, if_false, get?]
      rw [List.lookup_cons]
      simp [beq_eq_false_iff_ne.2 (Ne.symm h)]
      simpa [get?] using ih

theorem get?_put_of_ne {α : Type} {key other : String} (value : α) (es : List (String × α))
    (h : other ≠ key) : get? (put key value es) other = get? es other := by
  induction es with
  | nil => simp [put, get?, List.lookup_cons, beq_eq_false_iff_ne.2 h]
  | cons e es ih =>
    obtain ⟨k, v⟩ := e
    by_cases hk : k = key
    · subst hk; simp [put, get?, List.lookup_cons, beq_eq_false_iff_ne.2 h]
    · simp only [put, hk, if_false, get?, List.lookup_cons]
      split
      · rfl
      · simpa [get?] using ih

/-- The entries of a table, none for anything else. -/
def entries : Datum → List (String × Datum)
  | .table es => es
  | _ => []

/-- The elements of an array, none for anything else. -/
def elements : Datum → List Datum
  | .array xs => xs
  | _ => []

end Datum

end Chronicle
