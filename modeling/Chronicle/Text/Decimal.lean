/-!
# Decimal numerals

Natural numbers and integers as digits: `digits` and `padded` write, `value` reads. The bounded
readers take a sign the way number fields of configuration files do.
-/

namespace Chronicle.Decimal

/-- The ASCII digits. -/
def isDigit (c : Char) : Bool := '0' ≤ c && c ≤ '9'

/-- The number a digit stands for. -/
def digitValue (c : Char) : Nat := c.toNat - '0'.toNat

/-- The number a row of digits stands for. -/
def value (cs : List Char) : Nat := cs.foldl (fun n c => n * 10 + digitValue c) 0

/-- A number without leading zeros. -/
def digits (n : Nat) : List Char := Nat.toDigits 10 n

/-- A number with at least `width` digits, zeros in front. -/
def padded (width n : Nat) : List Char :=
  List.replicate (width - (digits n).length) '0' ++ digits n

/-- An integer, with a minus sign below zero. -/
def signed (i : Int) : List Char :=
  if i < 0 then '-' :: digits i.natAbs else digits i.natAbs

/-- A text of digits only, at least one. -/
def natural? (cs : List Char) : Option Nat :=
  if cs ≠ [] ∧ cs.all isDigit then some (value cs) else none

/-- A number of at most `bound`, with an optional plus sign. -/
def unsigned? (bound : Nat) (cs : List Char) : Option Nat :=
  let body := match cs with
    | '+' :: rest => rest
    | _ => cs
  (natural? body).filter (· ≤ bound)

/-- The largest number of 64 bits. -/
def maxU64 : Nat := 18446744073709551615

/-- The largest integer of 64 bits, one of which is for the sign. -/
def maxI64 : Nat := 9223372036854775807

/-- An integer of 64 bits, with an optional sign. -/
def int64? (cs : List Char) : Option Int :=
  match cs with
  | '-' :: rest => ((natural? rest).filter (· ≤ maxI64 + 1)).map fun n => -(n : Int)
  | _ => (unsigned? maxI64 cs).map fun n => (n : Int)

@[simp] theorem value_nil : value [] = 0 := rfl

end Chronicle.Decimal
