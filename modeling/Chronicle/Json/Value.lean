import Chronicle.Json.Numeral
import Chronicle.Json.Text
import Chronicle.Number.Shortest
/-!
# JSON values

`value` reads a value that is kept, nested up to a fixed depth; `write` writes one in as few
characters as it can, the keys of a table in order. Of two entries with one key the last counts.
-/

namespace Chronicle.Json

/-- Elements up to the closing bracket. -/
def elements {α : Type} (item : Reader α) : Nat → Bool → Reader (List α)
  | 0, _ => throw .cutShort
  | fuel + 1, first => do
    let c ← ahead
    if c = ']' then
      advance
      return []
    if !first then
      mark ','
      if (← ahead) = ']' then throw .malformed
    let x ← item
    let xs ← elements item fuel false
    return x :: xs

/-- A key and its value. -/
def member {α : Type} (item : Reader α) : Reader (String × α) := do
  mark '"'
  let key ← text
  mark ':'
  let x ← item
  return (key, x)

/-- Entries up to the closing bracket. -/
def members {α : Type} (item : Reader α) : Nat → Bool → Reader (List (String × α))
  | 0, _ => throw .cutShort
  | fuel + 1, first => do
    let c ← ahead
    if c = '\x7d' then
      advance
      return []
    if !first then mark ','
    let m ← member item
    let ms ← members item fuel false
    return m :: ms

/-- A table of the entries, each key once. -/
def tableOf (entries : List (String × Datum)) : Datum :=
  .table (entries.foldl (fun t (key, x) => Datum.put key x t) [])

/-- A value without brackets. -/
def scalar (first : Char) : Reader Datum :=
  match first with
  | 'n' => do word "null".toList; return .nil
  | 't' => do word "true".toList; return .boolean true
  | 'f' => do word "false".toList; return .boolean false
  | '"' => do advance; return .text (← text)
  | c => if c = '-' ∨ Decimal.isDigit c then number else throw .malformed

/-- A value with at most `depth` brackets around its innermost part. -/
def value : Nat → Reader Datum
  | 0 => do scalar (← ahead)
  | depth + 1 => do
    match ← ahead with
    | '[' =>
      advance
      let size := (← get).length
      return .array (← elements (value depth) (size + 1) true)
    | '\x7b' =>
      advance
      let size := (← get).length
      return tableOf (← members (value depth) (size + 1) true)
    | c => scalar c

/-- How deep a value may be nested. -/
def maxDepth : Nat := 127

/-- The value a whole text stands for. -/
def read (bs : List UInt8) : Except Defect Datum := whole (value maxDepth) bs

/-- Pieces with a comma between them. -/
def commas (pieces : List (List Char)) : List Char := List.intercalate [','] pieces

/-- A decimal, positional if its first digit stands for a power of ten from -5 to 15, and then with
a point. -/
def writeDecimal (x : DecimalNumber) : List Char :=
  let first := x.power + ((Decimal.digits x.digits).length - 1 : Nat)
  if -5 ≤ first ∧ first ≤ 15 then
    let s := Binary64.positional x
    if s.contains '.' then s else s ++ ['.', '0']
  else Binary64.scientific x

/-- A floating-point number in its shortest digits. -/
def writeFloat : Binary64 → List Char
  | .finite negative m e =>
    let body := if m = 0 then ['0', '.', '0'] else writeDecimal (Binary64.shortest .even m e)
    if negative then '-' :: body else body
  | _ => "null".toList

mutual

/-- A value as text. -/
def write : Datum → List Char
  | .nil => "null".toList
  | .boolean b => if b then "true".toList else "false".toList
  | .integer i => Decimal.signed i
  | .float x => writeFloat x
  | .text s => quote s
  | .array xs => '[' :: commas (writeElements xs) ++ [']']
  | .table es =>
    let pieces := (writeEntries es).mergeSort fun a b => a.1 ≤ b.1
    '\x7b' :: commas (pieces.map (·.2)) ++ ['\x7d']

/-- The texts of elements. -/
def writeElements : List Datum → List (List Char)
  | [] => []
  | x :: xs => write x :: writeElements xs

/-- The keys of entries and their texts. -/
def writeEntries : List (String × Datum) → List (String × List Char)
  | [] => []
  | e :: es => writeEntry e :: writeEntries es

/-- The key of an entry and its text. -/
def writeEntry : String × Datum → String × List Char
  | (key, x) => (key, quote key ++ ':' :: write x)

end

end Chronicle.Json
