import Chronicle.Text.Hex
import Chronicle.Text.Scan
/-!
# Words of TOML

White space, comments, keys and strings. Control characters other than the tab are refused
everywhere.
-/

namespace Chronicle.Toml

open Scan

/-- Space and tab. -/
def isSpace (c : Char) : Bool := c == ' ' || c == '\t'

/-- Characters that may stand in a comment or a string. -/
def isPrintable (c : Char) : Bool := c == '\t' || (32 ≤ c.toNat && c.toNat != 127)

/-- Spaces and tabs, as many as there are. -/
def spaces : Scan Unit := do
  let _ ← row isSpace

/-- The end of a line. -/
def lineEnd : Scan Unit
  | '\n' :: rest => some ((), rest)
  | '\r' :: '\n' :: rest => some ((), rest)
  | _ => none

/-- A comment, if there is one. -/
def comment : Scan Unit := do
  if ← taken ['#'] then
    let _ ← row isPrintable

/-- The end of a statement: spaces, a comment, and the end of the line or of the text. -/
def statementEnd : Scan Unit := do
  spaces
  comment
  match ← peek with
  | none => return
  | some _ => lineEnd

/-- Spaces, comments and line ends, as many as there are. -/
def gaps : Nat → Scan Unit
  | 0 => return
  | fuel + 1 => do
    spaces
    comment
    match ← peek with
    | some '\n' => lineEnd; gaps fuel
    | some '\r' => lineEnd; gaps fuel
    | _ => return

/-- Spaces, comments and line ends between the parts of a value. -/
def gap : Scan Unit := do gaps ((← get).length + 1)

/-! ## Strings -/

/-- A character given by so many hexadecimal digits. -/
def hexChar (size : Nat) : Scan Char := do
  let s ← get
  let digits := s.take size
  guard (digits.length = size)
  let n ← Hex.value? digits
  guard (n.isValidChar)
  set (s.drop size)
  return Char.ofNat n

/-- The character an escape stands for, after the backslash. -/
def escaped : Scan Char := do
  match ← next with
  | 'b' => return '\x08'
  | 't' => return '\t'
  | 'n' => return '\n'
  | 'f' => return '\x0c'
  | 'r' => return '\r'
  | 'e' => return '\x1b'
  | '"' => return '"'
  | '\\' => return '\\'
  | 'x' => hexChar 2
  | 'u' => hexChar 4
  | 'U' => hexChar 8
  | _ => failure

/-- The rest of a string in double quotes. -/
def basicRest : Nat → Scan (List Char)
  | 0 => failure
  | fuel + 1 => do
    match ← next with
    | '"' => return []
    | '\\' =>
      let c ← escaped
      return c :: (← basicRest fuel)
    | c =>
      guard (isPrintable c)
      return c :: (← basicRest fuel)

/-- The rest of a string in single quotes. -/
def literalRest : Scan (List Char) := do
  let content ← row fun c => isPrintable c && c != '\''
  char '\''
  return content

/-- A line break in a string of several lines, as it is written. -/
def keptBreak : Scan (List Char)
  | '\n' :: rest => some (['\n'], rest)
  | '\r' :: '\n' :: rest => some (['\r', '\n'], rest)
  | _ => none

/-- The end of a string of several lines: three quotes, before which two more may stand that belong
to the string. -/
def closing (quote : Char) : Scan (Option (List Char)) := do
  if ← taken (List.replicate 5 quote) then return some [quote, quote]
  if ← taken (List.replicate 4 quote) then return some [quote]
  if ← taken (List.replicate 3 quote) then return some []
  return none

/-- What follows spaces, tabs and line ends. -/
def afterBlank : List Char → List Char
  | ' ' :: rest => afterBlank rest
  | '\t' :: rest => afterBlank rest
  | '\n' :: rest => afterBlank rest
  | '\r' :: '\n' :: rest => afterBlank rest
  | s => s

/-- White space and line ends that a backslash at the end of a line takes away. -/
def joined : Scan Unit := do
  spaces
  lineEnd
  set (afterBlank (← get))

/-- The rest of a string of several lines. In double quotes it has escapes. -/
def linesRest (quote : Char) (escapes : Bool) : Nat → Scan (List Char)
  | 0 => failure
  | fuel + 1 => do
    match ← closing quote with
    | some quotes => return quotes
    | none =>
      match ← peek with
      | some '\\' =>
        let _ ← next
        if escapes then
          match ← peek with
          | some c =>
            if isSpace c || c == '\n' || c == '\r' then
              joined
              linesRest quote escapes fuel
            else
              let c ← escaped
              return c :: (← linesRest quote escapes fuel)
          | none => failure
        else return '\\' :: (← linesRest quote escapes fuel)
      | some c =>
        if c = '\n' ∨ c = '\r' then
          let broken ← keptBreak
          return broken ++ (← linesRest quote escapes fuel)
        else
          guard (isPrintable c)
          let _ ← next
          return c :: (← linesRest quote escapes fuel)
      | none => failure

/-- A line break right after the opening quotes is no part of the string. -/
def skipBreak : Scan Unit := do
  match ← peek with
  | some '\n' => lineEnd
  | some '\r' => lineEnd
  | _ => return

/-- A string of one line, from its opening quote. -/
def lineString : Scan (List Char) := do
  match ← next with
  | '"' => basicRest ((← get).length + 1)
  | '\'' => literalRest
  | _ => failure

/-- A string of any form. -/
def anyString : Scan String := do
  if ← taken ['"', '"', '"'] then
    skipBreak
    return String.ofList (← linesRest '"' true ((← get).length + 1))
  if ← taken ['\'', '\'', '\''] then
    skipBreak
    return String.ofList (← linesRest '\'' false ((← get).length + 1))
  return String.ofList (← lineString)

/-! ## Keys -/

/-- How deep keys and values may be nested. -/
def maxDepth : Nat := 80

/-- Characters of a key without quotes. -/
def isKeyChar (c : Char) : Bool := c.isAlphanum || c == '_' || c == '-'

/-- One part of a key. -/
def keyPart : Scan String := do
  match ← row isKeyChar with
  | [] => return String.ofList (← lineString)
  | cs => return String.ofList cs

/-- The parts of a key after the first. -/
def keyRest : Nat → Scan (List String)
  | 0 => failure
  | fuel + 1 => do
    spaces
    if ← taken ['.'] then
      spaces
      let part ← keyPart
      return part :: (← keyRest fuel)
    else return []

/-- A key of one or more parts. -/
def key : Scan (List String) := do
  let first ← keyPart
  let rest ← keyRest ((← get).length + 1)
  guard (rest.length < maxDepth)
  return first :: rest

end Chronicle.Toml
