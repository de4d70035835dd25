import Chronicle.Text.Blank
import Chronicle.Text.Decimal
import Chronicle.Text.Scan
import Chronicle.Time.Instant
/-!
# Time stamps

Two forms of a written time. The nanosecond form is lax about widths and spaces, but has nine
digits of a second or none. The RFC 3339 form has fixed widths and any number of digits.
`Stamp.read?` takes the first form that gives an instant.
-/

namespace Chronicle.Stamp

open Scan (char done)

/-- White space, as much as there is. -/
def blanks : Scan Unit := fun s => some ((), trimStart s)

/-- The digits at the start of a text, at most `n`, and the rest. -/
def spanDigits : Nat → List Char → List Char × List Char
  | n + 1, c :: rest =>
    if Decimal.isDigit c then
      let (ds, rest) := spanDigits n rest
      (c :: ds, rest)
    else ([], c :: rest)
  | _, s => ([], s)

/-- A number of at least `least` and at most `most` digits. -/
def number (least most : Nat) : Scan Nat := fun s =>
  let (ds, rest) := spanDigits most s
  if least ≤ ds.length then some (Decimal.value ds, rest) else none

/-- A number of one or two digits, after any white space. -/
def field : Scan Nat := do blanks; number 1 2

/-- A year after any white space: with a sign any number of digits, without one up to four. -/
def year : Scan Int := do
  blanks
  match ← get with
  | '-' :: rest => set rest; return -((← number 1 rest.length) : Int)
  | '+' :: rest => set rest; return (← number 1 rest.length)
  | _ => return (← number 1 4)

/-- The sign of an offset: plus, hyphen or the minus sign. -/
def sign : Scan Int
  | '+' :: rest => some (1, rest)
  | '-' :: rest => some (-1, rest)
  | '\u2212' :: rest => some (-1, rest)
  | _ => none

/-- The minutes of an offset, below sixty. -/
def offsetMinutes : Scan Nat := do
  let m ← number 2 2
  guard (m ≤ 59)
  return m

/-- Colons and white space, as much as there is. -/
def separators : Scan Unit := fun s => some ((), s.dropWhile fun c => c == ':' || isBlank c)

/-- An offset with a free separator, the minutes left out or not. -/
def laxOffset : Scan Int := do
  match ← get with
  | 'Z' :: rest => set rest; return 0
  | 'z' :: rest => set rest; return 0
  | _ =>
    let s ← sign
    let h ← number 2 2
    separators
    match ← get with
    | [] => return s * (h * 60)
    | _ => return s * (h * 60 + (← offsetMinutes))

/-- An offset with a colon. -/
def strictOffset : Scan Int := do
  match ← get with
  | 'Z' :: rest => set rest; return 0
  | 'z' :: rest => set rest; return 0
  | _ =>
    let s ← sign
    let h ← number 2 2
    char ':'
    return s * (h * 60 + (← offsetMinutes))

/-- Nine digits of a second after a point, or nothing. -/
def nineDigits : Scan Nat := do
  match ← get with
  | '.' :: rest => set rest; number 9 9
  | _ => return 0

/-- Any digits of a second after a point, of which nine count, or nothing. -/
def anyDigits : Scan Nat := do
  match ← get with
  | '.' :: rest =>
    let (ds, more) := spanDigits 9 rest
    guard (ds ≠ [])
    set (more.dropWhile Decimal.isDigit)
    return Decimal.value ds * Nat.pow 10 (9 - ds.length)
  | _ => return 0

/-- A time in the nanosecond form. -/
def nanoForm : Scan Civil := do
  let y ← year
  char '-'
  let mo ← field
  char '-'
  let d ← field
  char 'T'
  let h ← field
  char ':'
  let mi ← field
  char ':'
  let s ← field
  let n ← nineDigits
  blanks
  let o ← laxOffset
  done
  return ⟨⟨y, mo, d⟩, h, mi, s, n, o⟩

/-- What may stand between the date and the time of day. -/
def dateEnd : Scan Unit
  | 'T' :: rest => some ((), rest)
  | 't' :: rest => some ((), rest)
  | ' ' :: rest => some ((), rest)
  | _ => none

/-- A time in the RFC 3339 form. -/
def rfc3339Form : Scan Civil := do
  let y ← number 4 4
  char '-'
  let mo ← number 2 2
  char '-'
  let d ← number 2 2
  dateEnd
  let h ← number 2 2
  char ':'
  let mi ← number 2 2
  char ':'
  let s ← number 2 2
  let n ← anyDigits
  let o ← strictOffset
  done
  return ⟨⟨y, mo, d⟩, h, mi, s, n, o⟩

/-- The instant a whole text names in a form. -/
def instantIn? (form : Scan Civil) (s : List Char) : Option Instant := do
  let (c, _) ← form s
  c.instant?

/-- The instant a whole text names in the nanosecond form. -/
def readNano? (s : List Char) : Option Instant := instantIn? nanoForm s

/-- The instant a whole text names in the RFC 3339 form. -/
def readRfc3339? (s : List Char) : Option Instant := instantIn? rfc3339Form s

/-- The instant a whole text names in either form. -/
def read? (s : List Char) : Option Instant := (readNano? s).or (readRfc3339? s)

end Chronicle.Stamp
