import Chronicle.Number.Binary64
import Chronicle.Text.Decimal
/-!
# Shortest decimal

The decimal with the fewest digits that rounds to a given number, and of those the nearest; a `Tie`
says which of two equally near ones. It is found by trying one digit, two digits and so on: if any
decimal of a grid rounds to the number, one of the two grid points beside the number does.
-/

namespace Chronicle

/-- A decimal: `digits * 10 ^ power`. -/
structure DecimalNumber where
  digits : Nat
  power : Int
deriving DecidableEq, Repr

/-- The same decimal without zeros at the end of its digits. -/
def DecimalNumber.reduced (x : DecimalNumber) : DecimalNumber :=
  if x.digits = 0 ∨ x.digits % 10 ≠ 0 then x
  else DecimalNumber.reduced ⟨x.digits / 10, x.power + 1⟩
termination_by x.digits
decreasing_by omega

/-- Which of two equally near decimals is taken. -/
inductive Tie where
  | upper
  /-- The one whose last digit is even. -/
  | even
deriving DecidableEq, Repr

/-- Is the lower of two equally near decimals taken, given its last digit? -/
def Tie.takesLower (tie : Tie) (last : Nat) : Bool :=
  match tie with
  | .upper => false
  | .even => last % 2 == 0

namespace Binary64

/-- The reals that round to a number, with the number in the middle, over one denominator. -/
structure Neighbourhood where
  low : Nat
  value : Nat
  high : Nat
  den : Nat
  /-- Do the ends round to the number too? -/
  closed : Bool
deriving Repr

/-- The reals that round to `significand * 2 ^ exponent`. -/
def neighbourhood (significand : Nat) (exponent : Int) : Neighbourhood :=
  let (value, den) := ratio significand exponent
  let unit := if 0 ≤ exponent then Nat.pow 2 exponent.toNat else 1
  let below := if significand = leastFull ∧ minExponent < exponent then unit else 2 * unit
  { low := 4 * value - below, value := 4 * value, high := 4 * value + 2 * unit, den := 4 * den,
    closed := significand % 2 = 0 }

/-- Does a decimal round to the number? -/
def Neighbourhood.holds (r : Neighbourhood) (x : DecimalNumber) : Bool :=
  let (n, d) :=
    if 0 ≤ x.power then (x.digits * Nat.pow 10 x.power.toNat, 1)
    else (x.digits, Nat.pow 10 (-x.power).toNat)
  if r.closed then r.low * d ≤ n * r.den && n * r.den ≤ r.high * d
  else r.low * d < n * r.den && n * r.den < r.high * d

/-- How many digits the value has before the point; below one, less by each zero after it. -/
def magnitude (num den : Nat) : Int :=
  if den ≤ num then (Nat.toDigits 10 (num / den)).length
  else
    let zeros := ((List.range 400).find? fun j => den ≤ num * Nat.pow 10 (j + 1)).getD 0
    0 - (zeros : Int)

/-- The grid points below and above a value, the nearer first. -/
def besides (tie : Tie) (num den : Nat) (power : Int) : List DecimalNumber :=
  let (n, d) :=
    if 0 ≤ power then (num, den * Nat.pow 10 power.toNat)
    else (num * Nat.pow 10 (-power).toNat, den)
  let q := n / d
  let lower := 2 * (n % d) < d ∨ 2 * (n % d) = d ∧ tie.takesLower q
  if lower then [⟨q, power⟩, ⟨q + 1, power⟩] else [⟨q + 1, power⟩, ⟨q, power⟩]

/-- The shortest decimal that rounds to `significand * 2 ^ exponent`. -/
def shortest (tie : Tie) (significand : Nat) (exponent : Int) : DecimalNumber :=
  let (num, den) := ratio significand exponent
  let r := neighbourhood significand exponent
  let size := magnitude num den
  let found := (List.range 17).findSome? fun (k : Nat) =>
    (besides tie num den (size - (k + 1))).find? r.holds
  (found.getD ⟨0, 0⟩).reduced

/-- A decimal without an exponent. -/
def positional (x : DecimalNumber) : List Char :=
  let ds := Decimal.digits x.digits
  if 0 ≤ x.power then ds ++ List.replicate x.power.toNat '0'
  else
    let places := (-x.power).toNat
    let padded := List.replicate (places + 1 - ds.length) '0' ++ ds
    padded.take (padded.length - places) ++ '.' :: padded.drop (padded.length - places)

/-- A decimal with one digit before the point and an exponent, which has its sign. -/
def scientific (x : DecimalNumber) : List Char :=
  let ds := Decimal.digits x.digits
  let power := x.power + (ds.length - 1 : Nat)
  let places := if ds.length = 1 then [] else '.' :: ds.drop 1
  ds.take 1 ++ places ++ 'e' :: (if power < 0 then '-' else '+') :: Decimal.digits power.natAbs

/-- The text of a number: the shortest digits that give it back, never with an exponent. -/
def text : Binary64 → String
  | .nan => "NaN"
  | .infinity negative => if negative then "-inf" else "inf"
  | .finite negative m e =>
    let body := if m = 0 then ['0'] else positional (shortest .upper m e)
    String.ofList (if negative then '-' :: body else body)

end Binary64

end Chronicle
