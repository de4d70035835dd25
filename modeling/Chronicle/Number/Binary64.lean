/-!
# Binary floating point

Numbers of 64 bits as exact values: a sign, a significand below 2^53 and a power of two.
`ofRatio` rounds a fraction to the nearest of them, and of two equally near ones takes the even.
-/

namespace Chronicle

/-- A floating-point number. A finite one is `significand * 2 ^ exponent`. -/
inductive Binary64 where
  | nan
  | infinity (negative : Bool)
  | finite (negative : Bool) (significand : Nat) (exponent : Int)
deriving DecidableEq, Repr

/-- A quotient to the nearest integer, a half to the even one. -/
def roundQuotient (num den : Nat) : Nat :=
  let q := num / den
  let r := num % den
  if 2 * r < den then q
  else if den < 2 * r then q + 1
  else if q % 2 = 0 then q else q + 1

namespace Binary64

/-- The least significand of 53 bits. -/
def leastFull : Nat := 4503599627370496

/-- The least exponent of two. -/
def minExponent : Int := -1074

/-- The greatest exponent of two. -/
def maxExponent : Int := 971

/-- Zero, with a sign. -/
def zero (negative : Bool) : Binary64 := .finite negative 0 minExponent

/-- A fraction divided by a power of two, as a numerator and a denominator. -/
def scaled (num den : Nat) (exponent : Int) : Nat × Nat :=
  if 0 ≤ exponent then (num, den * Nat.pow 2 exponent.toNat)
  else (num * Nat.pow 2 (-exponent).toNat, den)

/-- The exponent at which a fraction has 53 bits before the point, or the least one. -/
def exponentOf (num den : Nat) : Int :=
  let guess := max ((Nat.log2 num : Int) - Nat.log2 den - 53) minExponent
  let (n, d) := scaled num den guess
  if n / d < 2 * leastFull then guess else guess + 1

/-- The nearest number to a fraction. -/
def ofRatio (negative : Bool) (num den : Nat) : Binary64 :=
  if num = 0 then zero negative
  else
    let e := exponentOf num den
    let (n, d) := scaled num den e
    let m := roundQuotient n d
    let (m, e) := if m = 2 * leastFull then (leastFull, e + 1) else (m, e)
    if maxExponent < e then .infinity negative else .finite negative m e

/-- The nearest number to `digits * 10 ^ power`. -/
def ofDecimal (negative : Bool) (digits : Nat) (power : Int) : Binary64 :=
  let size := (Nat.toDigits 10 digits).length
  if digits = 0 then zero negative
  else if 400 < power then .infinity negative
  else if power + size < -400 then zero negative
  else if 0 ≤ power then ofRatio negative (digits * Nat.pow 10 power.toNat) 1
  else ofRatio negative digits (Nat.pow 10 (-power).toNat)

/-- The size of a finite number as a fraction. -/
def ratio (significand : Nat) (exponent : Int) : Nat × Nat :=
  if 0 ≤ exponent then (significand * Nat.pow 2 exponent.toNat, 1)
  else (significand, Nat.pow 2 (-exponent).toNat)

/-- The rounded product of two numbers. -/
def mul : Binary64 → Binary64 → Binary64
  | .finite s m e, .finite t n f =>
    let (a, b) := ratio m e
    let (c, d) := ratio n f
    ofRatio (s != t) (a * c) (b * d)
  | .infinity s, .finite t n _ => if n = 0 then .nan else .infinity (s != t)
  | .finite s m _, .infinity t => if m = 0 then .nan else .infinity (s != t)
  | .infinity s, .infinity t => .infinity (s != t)
  | _, _ => .nan

/-- The rounded quotient of two numbers. -/
def div : Binary64 → Binary64 → Binary64
  | .finite s m e, .finite t n f =>
    if n = 0 then if m = 0 then .nan else .infinity (s != t)
    else
      let (a, b) := ratio m e
      let (c, d) := ratio n f
      ofRatio (s != t) (a * d) (b * c)
  | .infinity s, .finite t _ _ => .infinity (s != t)
  | .finite s _ _, .infinity t => zero (s != t)
  | _, _ => .nan

/-- The number with the other sign. -/
def neg : Binary64 → Binary64
  | .finite s m e => .finite (!s) m e
  | .infinity s => .infinity (!s)
  | .nan => .nan

/-- The nearest natural number up to a bound, a half away from zero. What is negative or no number
gives zero. -/
def toNat (bound : Nat) : Binary64 → Nat
  | .finite false m e =>
    let (n, d) := ratio m e
    min bound ((2 * n + d) / (2 * d))
  | .infinity false => bound
  | _ => 0

end Binary64

end Chronicle
