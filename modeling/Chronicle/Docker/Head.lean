import Chronicle.Palette
import Chronicle.Stream.Lines
import Chronicle.Text.Decimal
/-!
# Heads of answers

An answer begins with a status line and header fields, a line each, up to an empty line. A line ends
at a newline, before which one carriage return may stand.
-/

namespace Chronicle

/-- A field of a head: its name in lower case and its value. -/
structure HeaderField where
  name : String
  value : List Char
deriving DecidableEq, Repr

/-- The version and the status of an answer. -/
structure StatusLine where
  /-- The digit after `HTTP/1.`. -/
  version : Char
  status : Nat
deriving DecidableEq, Repr

namespace Head

/-- A byte as a character. -/
def latin (b : UInt8) : Char := Char.ofNat b.toNat

/-- The first line and what follows it. -/
def takeLine (bs : List UInt8) : Option (List Char × List UInt8) :=
  (cutAtNewline bs).map fun (line, rest) => ((chomp line).map latin, rest)

/-- Space and tab. -/
def isGap (c : Char) : Bool := c == ' ' || c == '\t'

/-- A text without the spaces and tabs around it. -/
def strip (s : List Char) : List Char :=
  ((s.dropWhile isGap).reverse.dropWhile isGap).reverse

/-- Characters that may stand in the value of a field. -/
def isValueChar (c : Char) : Bool := c == '\t' || (32 ≤ c.toNat && c.toNat != 127)

/-- Characters that may stand in the name of a field. -/
def isNameChar (c : Char) : Bool :=
  c.isAlphanum || "!#$%&'*+-.^_|~".toList.contains c || c.toNat == 0x60

/-- The statuses an answer can have. -/
def isStatus (status : Nat) : Bool := 100 ≤ status && status ≤ 999

/-- A status line. -/
def statusLine? (line : List Char) : Option StatusLine := do
  guard ("HTTP/1.".toList.isPrefixOf line)
  match line.drop 7 with
  | version :: ' ' :: a :: b :: c :: rest =>
    guard (version = '0' ∨ version = '1')
    let status ← Decimal.natural? [a, b, c]
    guard (isStatus status)
    guard (rest = [] ∨ rest.head? = some ' ' ∧ rest.all isValueChar)
    return { version, status }
  | _ => none

/-- The line of a field. -/
def field? (line : List Char) : Option HeaderField := do
  let name := line.takeWhile isNameChar
  guard (name ≠ [])
  match line.dropWhile isNameChar with
  | ':' :: value =>
    guard (value.all isValueChar)
    return { name := String.ofList (name.map lowerAscii), value := strip value }
  | _ => none

/-- At most `room` fields up to an empty line, and what follows it. -/
def fields? (room : Nat) (bs : List UInt8) : Option (List HeaderField × List UInt8) := do
  let (line, rest) ← takeLine bs
  if line = [] then return ([], rest)
  else match room with
    | 0 => none
    | room + 1 =>
      let field ← field? line
      let (fields, rest) ← fields? room rest
      return (field :: fields, rest)

/-- How many fields a head may have. -/
def maxFields : Nat := 100

/-- The values of the fields of a name, in order. -/
def valuesOf (name : String) (fields : List HeaderField) : List (List Char) :=
  (fields.filter (·.name == name)).map (·.value)

/-- Is the text made of ASCII characters that can be seen, spaces and tabs? -/
def isPlain (s : List Char) : Bool := s.all fun c => c == '\t' || (32 ≤ c.toNat && c.toNat < 127)

/-- The parts of a text between commas. -/
def commaParts (s : List Char) : List (List Char) := (s.splitOn ',').map strip

/-- The length that some values announce: the same number in all of them. -/
def length? (values : List (List Char)) : Option Nat := do
  guard (values.all isPlain)
  let numbers ← (values.flatMap commaParts).mapM Decimal.natural?
  let first ← numbers.head?
  guard (numbers.all (· == first) ∧ first ≤ Decimal.maxU64 - 2)
  return first

/-- Is the last encoding that is applied to a body the one in chunks? -/
def isChunked (encodings : List (List Char)) : Bool :=
  match encodings.getLast? with
  | some s => isPlain s && (((commaParts s).getLast?.getD []).map lowerAscii == "chunked".toList)
  | none => false

end Head

end Chronicle
