import Chronicle.Json.Basic
import Chronicle.Text.Hex
import Chronicle.Text.Utf8
/-!
# JSON strings

`quote` writes a string. `text` reads one: the bytes after the opening quote, with escapes replaced,
which together have to be UTF-8. `skipText` passes over a string that nobody wants; it looks at the
shape of escapes only.
-/

namespace Chronicle.Json

/-- Where a reader stands inside a string. -/
inductive Place where
  | plain
  /-- After a backslash. -/
  | escape
  /-- Among the four digits of a `\u` escape. -/
  | digits (high : Option Nat) (read : List UInt8)
  /-- Between the two escapes of a surrogate pair. -/
  | pair (high : Nat)
  /-- After the backslash of the second escape of a pair. -/
  | pairEscape (high : Nat)
deriving DecidableEq, Repr

/-- What a byte of a string does. -/
inductive Advance where
  /-- Goes on, with these bytes of the text read. -/
  | go (place : Place) (read : List UInt8)
  | closed
  | bad
deriving DecidableEq, Repr

/-- The byte an escape of one letter stands for. -/
def escaped? : Char → Option UInt8
  | '"' => some (byte '"')
  | '\\' => some (byte '\\')
  | '/' => some (byte '/')
  | 'b' => some 8
  | 'f' => some 12
  | 'n' => some (byte '\n')
  | 'r' => some (byte '\r')
  | 't' => some (byte '\t')
  | _ => none

/-- What four digits do. A surrogate has to be the first or the second of a pair. -/
def unit (strict : Bool) (high : Option Nat) (n : Nat) : Advance :=
  if !strict then .go .plain []
  else match high with
    | none =>
      if 0xD800 ≤ n ∧ n ≤ 0xDBFF then .go (.pair n) []
      else if 0xDC00 ≤ n ∧ n ≤ 0xDFFF then .bad
      else .go .plain (Utf8.encode [Char.ofNat n])
    | some h =>
      if 0xDC00 ≤ n ∧ n ≤ 0xDFFF then
        .go .plain (Utf8.encode [Char.ofNat ((h - 0xD800) * 1024 + (n - 0xDC00) + 0x10000)])
      else .bad

/-- One byte of a string. -/
def step (strict : Bool) (place : Place) (b : UInt8) : Advance :=
  let c := Char.ofNat b.toNat
  match place with
  | .plain =>
    if c = '"' then .closed
    else if c = '\\' then .go .escape []
    else if b < 32 then .bad
    else .go .plain [b]
  | .escape =>
    if c = 'u' then .go (.digits none []) []
    else match escaped? c with
      | some e => .go .plain [e]
      | none => .bad
  | .digits high read =>
    let read := read ++ [b]
    if read.length < 4 then .go (.digits high read) []
    else match Hex.value? (read.map fun b => Char.ofNat b.toNat) with
      | some n => unit strict high n
      | none => .bad
  | .pair high => if c = '\\' then .go (.pairEscape high) [] else .bad
  | .pairEscape high => if c = 'u' then .go (.digits (some high) []) [] else .bad

/-- The bytes of a string up to its closing quote. -/
def scan (strict : Bool) (place : Place) : Reader (List UInt8)
  | [] => .error .cutShort
  | b :: rest =>
    match step strict place b with
    | .closed => .ok ([], rest)
    | .bad => .error .malformed
    | .go place read => (scan strict place rest).map fun (more, left) => (read ++ more, left)

/-- A string, from after its opening quote. -/
def text : Reader String := do
  match Utf8.decode? (← scan true .plain) with
  | some cs => return String.ofList cs
  | none => throw .malformed

/-- Passes over a string, from after its opening quote. -/
def skipText : Reader Unit := do
  let _ ← scan false .plain

/-- One character inside a string. -/
def escape (c : Char) : List Char :=
  match c with
  | '"' => ['\\', '"']
  | '\\' => ['\\', '\\']
  | '\x08' => ['\\', 'b']
  | '\x0c' => ['\\', 'f']
  | '\n' => ['\\', 'n']
  | '\r' => ['\\', 'r']
  | '\t' => ['\\', 't']
  | c =>
    if c.toNat < 32 then
      ['\\', 'u', '0', '0', Hex.lower (c.toNat / 16), Hex.lower (c.toNat % 16)]
    else [c]

/-- A string with its quotes. -/
def quote (s : String) : List Char := '"' :: s.toList.flatMap escape ++ ['"']

end Chronicle.Json
