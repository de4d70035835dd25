import Chronicle.Data.Datum
import Chronicle.Text.Decimal
import Chronicle.Time.Calendar
import Chronicle.Toml.Lexical
/-!
# Scalars of TOML

Booleans, integers of 64 bits, floating-point numbers, dates and times. A date or a time is read as
the text of its canonical form.
-/

namespace Chronicle.Toml

open Scan

/-- Digits of a kind, with single underscores between them. -/
def underscored (is : Char → Bool) : List Char → Option (List Char)
  | [] => none
  | [c] => if is c then some [c] else none
  | c :: '_' :: rest => if is c then (underscored is rest).map (c :: ·) else none
  | c :: rest => if is c then (underscored is rest).map (c :: ·) else none

/-- Digits without a zero in front. -/
def wholeDigits? (s : List Char) : Option (List Char) := do
  let ds ← underscored Decimal.isDigit s
  guard (ds.length = 1 ∨ ds.head? ≠ some '0')
  return ds

/-- A sign, and the text after it. -/
def spanSign : List Char → Bool × List Char
  | '-' :: rest => (true, rest)
  | '+' :: rest => (false, rest)
  | s => (false, s)

/-- An integer of 64 bits. -/
def bounded (i : Int) : Option Datum :=
  if -(Decimal.maxI64 : Int) - 1 ≤ i ∧ i ≤ Decimal.maxI64 then some (.integer i) else none

/-- An integer in another base than ten. -/
def based (base : Nat) (s : List Char) : Option Datum := do
  let ds ← underscored (fun c => (Hex.digit? c).any (· < base)) s
  bounded (ds.foldl (fun n c => n * base + (Hex.digit? c).getD 0) 0 : Nat)

/-- An integer. -/
def integer? (s : List Char) : Option Datum :=
  match s with
  | '0' :: 'x' :: rest => based 16 rest
  | '0' :: 'o' :: rest => based 8 rest
  | '0' :: 'b' :: rest => based 2 rest
  | _ => do
    let (negative, body) := spanSign s
    let n : Int := Decimal.value (← wholeDigits? body)
    bounded (if negative then -n else n)

/-- The power of ten after an `e`. -/
def power? (s : List Char) : Option Int := do
  let (negative, body) := spanSign s
  let n : Int := Decimal.value (← underscored Decimal.isDigit body)
  return if negative then -n else n

/-- Does this character begin the exponent of a number? -/
def isExponent (c : Char) : Bool := c == 'e' || c == 'E'

/-- A floating-point number with a point or an exponent, if it is finite. -/
def digits? (negative : Bool) (s : List Char) : Option Datum := do
  let mantissa := s.takeWhile (!isExponent ·)
  let power ← match s.dropWhile (!isExponent ·) with
    | [] => some 0
    | _ :: rest => power? rest
  let whole ← wholeDigits? (mantissa.takeWhile (· != '.'))
  let places ← match mantissa.dropWhile (· != '.') with
    | [] => some []
    | _ :: rest => underscored Decimal.isDigit rest
  guard (s.any fun c => isExponent c || c == '.')
  match Binary64.ofDecimal negative (Decimal.value (whole ++ places)) (power - places.length) with
  | .finite s m e => return .float (.finite s m e)
  | _ => none

/-- A floating-point number. -/
def float? (s : List Char) : Option Datum :=
  let (negative, body) := spanSign s
  if body = ['i', 'n', 'f'] then some (.float (.infinity negative))
  else if body = ['n', 'a', 'n'] then some (.float .nan)
  else digits? negative body

/-! ## Dates and times -/

/-- Exactly so many digits. -/
def fixed (size : Nat) : Scan (List Char) := do
  let s ← get
  let ds := s.take size
  guard (ds.length = size ∧ ds.all Decimal.isDigit)
  set (s.drop size)
  return ds

/-- Two digits of a number up to a bound. -/
def upTo (most : Nat) : Scan (List Char) := do
  let ds ← fixed 2
  guard (Decimal.value ds ≤ most)
  return ds

/-- A date of the calendar. -/
def date : Scan (List Char) := do
  let y ← fixed 4
  char '-'
  let m ← fixed 2
  char '-'
  let d ← fixed 2
  guard (Date.Exists ⟨Decimal.value y, Decimal.value m, Decimal.value d⟩)
  return y ++ '-' :: m ++ '-' :: d

/-- The digits of a fraction of a second, up to the ninth, without zeros at the end. -/
def fraction : Scan (List Char) := do
  if ← taken ['.'] then
    let ds ← row Decimal.isDigit
    guard (ds ≠ [])
    match ((ds.take 9).reverse.dropWhile (· == '0')).reverse with
    | [] => return ['.', '0']
    | kept => return '.' :: kept
  else return []

/-- A time of day. The seconds may be left out. -/
def time : Scan (List Char) := do
  let h ← upTo 23
  char ':'
  let m ← upTo 59
  if ← taken [':'] then
    let s ← upTo 60
    return h ++ ':' :: m ++ ':' :: s ++ (← fraction)
  else return h ++ ':' :: m

/-- The offset of a time from UTC, if it has one. -/
def offset : Scan (List Char) := do
  match ← peek with
  | none => return []
  | some _ =>
    match ← next with
    | 'Z' => return ['Z']
    | 'z' => return ['Z']
    | '+' => hours '+'
    | '-' => hours '-'
    | _ => failure
where
  /-- Hours and minutes after a sign. Zero is written with a plus. -/
  hours (sign : Char) : Scan (List Char) := do
    let h ← upTo 23
    char ':'
    let m ← upTo 59
    let sign := if Decimal.value (h ++ m) = 0 then '+' else sign
    return sign :: h ++ ':' :: m

/-- A date, a time, or a date and a time with or without an offset. -/
def moment : Scan (List Char) := do
  match (← get)[2]? with
  | some ':' =>
    let t ← time
    done
    return t
  | _ =>
    let d ← date
    match ← peek with
    | none => return d
    | some c =>
      guard (c = 'T' ∨ c = 't' ∨ c = ' ')
      let _ ← next
      let t ← time
      let o ← offset
      done
      return d ++ 'T' :: t ++ o

/-- The canonical text of a date or a time. -/
def moment? (s : List Char) : Option Datum :=
  (moment s).map fun (text, _) => .text (String.ofList text)

/-- Characters of which a scalar without quotes is made. -/
def isScalarChar (c : Char) : Bool :=
  c.isAlphanum || c == '_' || c == '-' || c == '+' || c == '.' || c == ':'

/-- A date ahead of a time with a space between them. -/
def startsTime : List Char → Bool
  | ' ' :: a :: b :: ':' :: _ => Decimal.isDigit a && Decimal.isDigit b
  | _ => false

/-- The text of a scalar without quotes. One space may stand between a date and a time. -/
def scalarText : Scan (List Char) := do
  let first ← row isScalarChar
  if first.length = 10 ∧ (date first).isSome ∧ startsTime (← get) then
    let _ ← next
    return first ++ ' ' :: (← row isScalarChar)
  else return first

/-- The value of a scalar without quotes. -/
def scalar? (s : List Char) : Option Datum :=
  if s = "true".toList then some (.boolean true)
  else if s = "false".toList then some (.boolean false)
  else (integer? s).or ((float? s).or (moment? s))

/-- A scalar without quotes. -/
def scalar : Scan Datum := do
  match scalar? (← scalarText) with
  | some d => return d
  | none => failure

end Chronicle.Toml
