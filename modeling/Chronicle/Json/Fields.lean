import Chronicle.Json.Skip
import Chronicle.Json.Value
/-!
# Records with known fields

A record is read from a table, where keys that are not known are passed over and a known one may
come once, or from an array of the fields in order, of which the last ones may be missing.
-/

namespace Chronicle.Json

/-- A field: its key, and how its value changes the record. -/
structure RecordField (σ : Type) where
  key : String
  set : σ → Reader σ

/-- A value of another kind than the one wanted. What can be seen of it is read first. -/
def wrongKind {α : Type} (first : Char) : Reader α :=
  match first with
  | '[' => throw .mismatch
  | '\x7b' => throw .mismatch
  | 'n' => do word "null".toList; throw .mismatch
  | 't' => do word "true".toList; throw .mismatch
  | 'f' => do word "false".toList; throw .mismatch
  | '"' => do advance; let _ ← text; throw .mismatch
  | c => do
    if c = '-' ∨ Decimal.isDigit c then
      let _ ← number
      throw .mismatch
    else throw .malformed

/-- A text, and nothing else. -/
def wantText : Reader String := do
  match ← ahead with
  | '"' => advance; text
  | c => wrongKind c

/-- A truth value, and nothing else. -/
def wantBoolean : Reader Bool := do
  match ← ahead with
  | 't' => word "true".toList; return true
  | 'f' => word "false".toList; return false
  | c => wrongKind c

/-- The entries of a record, each key seen before at most once. -/
def fieldsByKey {σ : Type} (fields : List (RecordField σ)) : Nat → Bool → List String → σ → Reader σ
  | 0, _, _, _ => throw .cutShort
  | fuel + 1, first, seen, s => do
    let c ← ahead
    if c = '\x7d' then
      advance
      return s
    if !first then mark ','
    mark '"'
    let key ← text
    match fields.find? (·.key == key) with
    | some field =>
      if key ∈ seen then throw .mismatch
      mark ':'
      fieldsByKey fields fuel false (key :: seen) (← field.set s)
    | none =>
      mark ':'
      skip
      fieldsByKey fields fuel false seen s

/-- The end of an array. -/
def arrayEnd : Reader Unit := mark ']'

/-- The fields of a record in order, as many as there are. -/
def fieldsInOrder {σ : Type} : List (RecordField σ) → Bool → σ → Reader σ
  | [], _, s => do
    arrayEnd
    return s
  | field :: more, first, s => do
    let c ← ahead
    if c = ']' then
      advance
      return s
    if !first then
      mark ','
      if (← ahead) = ']' then throw .malformed
    fieldsInOrder more false (← field.set s)

/-- A record, from what it is if no field is given. -/
def record {σ : Type} (fields : List (RecordField σ)) (start : σ) : Reader σ := do
  match ← ahead with
  | '\x7b' =>
    advance
    let size := (← get).length
    fieldsByKey fields (size + 1) true [] start
  | '[' =>
    advance
    fieldsInOrder fields true start
  | c => wrongKind c

end Chronicle.Json
