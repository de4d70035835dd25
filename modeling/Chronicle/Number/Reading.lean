import Chronicle.Number.Binary64
import Chronicle.Palette
import Chronicle.Text.Decimal
/-!
# Reading floating-point numbers

`Binary64.read?` takes what a settings value may look like: digits with a point before, between or
after them, an exponent, a sign, or one of the words for infinity and for no number.
-/

namespace Chronicle.Binary64

/-- A sign and the text after it. -/
def spanSign : List Char → Bool × List Char
  | '-' :: rest => (true, rest)
  | '+' :: rest => (false, rest)
  | s => (false, s)

/-- The power of ten an exponent part stands for: nothing at all, or `e` and an integer. -/
def readPower? : List Char → Option Int
  | [] => some 0
  | c :: rest =>
    if c = 'e' ∨ c = 'E' then
      let (negative, ds) := spanSign rest
      (Decimal.natural? ds).map fun n => if negative then -(n : Int) else n
    else none

/-- Digits, a point if there is one, and an exponent part. -/
def readDigits? (negative : Bool) (s : List Char) : Option Binary64 :=
  let whole := s.takeWhile Decimal.isDigit
  let afterWhole := s.dropWhile Decimal.isDigit
  let (places, rest) := match afterWhole with
    | '.' :: more => (more.takeWhile Decimal.isDigit, more.dropWhile Decimal.isDigit)
    | _ => ([], afterWhole)
  if whole = [] ∧ places = [] then none
  else (readPower? rest).map fun power =>
    ofDecimal negative (Decimal.value (whole ++ places)) (power - places.length)

/-- A number in any of its forms. -/
def read? (s : List Char) : Option Binary64 :=
  let (negative, body) := spanSign s
  let word := String.ofList (body.map lowerAscii)
  if word = "inf" ∨ word = "infinity" then some (.infinity negative)
  else if word = "nan" then some .nan
  else readDigits? negative body

end Chronicle.Binary64
