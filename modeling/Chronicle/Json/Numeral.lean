import Chronicle.Data.Datum
import Chronicle.Json.Basic
import Chronicle.Text.Decimal
/-!
# JSON numbers

A numeral is the parts of a number as they are written. Its value is an integer if it is written as
one that fits 64 bits, and else a floating-point number: a significand of 64 bits, rounded, times or
over a power of ten. That can be a little off the nearest number, and always in the same way.
-/

namespace Chronicle.Json

/-- A number as it is written. -/
structure Numeral where
  negative : Bool
  whole : List Char
  /-- The digits after the point, if there is one. -/
  places : Option (List Char)
  power : Option Int
deriving DecidableEq, Repr

/-- The digits that come next. -/
def digits : Reader (List Char) := fun bs =>
  let isDigit (b : UInt8) := Decimal.isDigit (Char.ofNat b.toNat)
  .ok ((bs.takeWhile isDigit).map fun b => Char.ofNat b.toNat, bs.dropWhile isDigit)

/-- The next character is this one, and is dropped. -/
def optional (is : Char → Bool) : Reader (Option Char) := do
  match ← peek with
  | some c => if is c then advance; return some c else return none
  | none => return none

/-- The digits before the point. A zero stands alone. -/
def wholeDigits (atEnd : Defect) : Reader (List Char) := do
  match ← digits with
  | [] => if (← peek) = none then throw atEnd else throw .malformed
  | ['0'] => return ['0']
  | '0' :: _ => throw .malformed
  | ds => return ds

/-- At least one digit. -/
def someDigits (atEnd : Defect) : Reader (List Char) := do
  match ← digits with
  | [] => if (← peek) = none then throw atEnd else throw .malformed
  | ds => return ds

/-- A number. Where the text ends inside it, the defect is `atEnd`. -/
def numeral (atEnd : Defect) : Reader Numeral := do
  let minus ← optional (· == '-')
  let whole ← wholeDigits atEnd
  let places ← match ← optional (· == '.') with
    | some _ => some <$> someDigits atEnd
    | none => pure none
  let power ← match ← optional (fun c => c == 'e' || c == 'E') with
    | some _ => do
      let sign ← optional (fun c => c == '+' || c == '-')
      let n := Decimal.value (← someDigits atEnd)
      pure (some (if sign = some '-' then -(n : Int) else n))
    | none => pure none
  return { negative := minus.isSome, whole, places, power }

/-- Adds digits to a significand while it has 64 bits, and gives back those that are left over. -/
def gather (significand : Nat) : List Char → Nat × List Char
  | [] => (significand, [])
  | d :: ds =>
    let more := significand * 10 + Decimal.digitValue d
    if more ≤ Decimal.maxU64 then gather more ds else (significand, d :: ds)

/-- A number times a power of ten, if that is finite. -/
def scale (x : Binary64) (power : Int) : Option Binary64 :=
  if power.natAbs ≤ 308 then
    if 0 ≤ power then
      match x.mul (.ofDecimal false 1 power) with
      | .infinity _ => none
      | y => some y
    else some (x.div (.ofDecimal false 1 (-power)))
  else if x = .zero false then some x
  else if 0 < power then none
  else scale (x.div (.ofDecimal false 1 308)) (power + 308)
termination_by power.natAbs
decreasing_by omega

/-- The value of a numeral, if it has one. -/
def Numeral.value? (n : Numeral) : Option Datum :=
  let (significand, beyond) := gather 0 n.whole
  if n.places = none ∧ n.power = none ∧ beyond = [] then
    if !n.negative then some (.integer significand)
    else if 0 < significand ∧ significand ≤ Decimal.maxI64 + 1 then some (.integer (-significand))
    else some (.float (.ofRatio true significand 1))
  else
    let places := n.places.getD []
    let (significand, rest) := gather significand places
    let power := (beyond.length : Int) - (places.length - rest.length : Nat) + n.power.getD 0
    (scale (.ofRatio false significand 1) power).map fun x =>
      .float (if n.negative then x.neg else x)

/-- A number that is kept. -/
def number : Reader Datum := do
  match (← numeral .cutShort).value? with
  | some d => return d
  | none => throw .malformed

end Chronicle.Json
