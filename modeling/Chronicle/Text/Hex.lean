/-!
# Hexadecimal digits
-/

namespace Chronicle.Hex

/-- The number a hexadecimal digit of either case stands for. -/
def digit? (c : Char) : Option Nat :=
  if '0' ≤ c ∧ c ≤ '9' then some (c.toNat - '0'.toNat)
  else if 'a' ≤ c ∧ c ≤ 'f' then some (c.toNat - 'a'.toNat + 10)
  else if 'A' ≤ c ∧ c ≤ 'F' then some (c.toNat - 'A'.toNat + 10)
  else none

/-- The number a row of hexadecimal digits stands for, if all of them are digits. -/
def value? (cs : List Char) : Option Nat :=
  cs.foldlM (fun n c => (digit? c).map (n * 16 + ·)) 0

/-- A lower-case digit. -/
def lower (n : Nat) : Char := if n < 10 then Char.ofNat (48 + n) else Char.ofNat (87 + n)

/-- An upper-case digit. -/
def upper (n : Nat) : Char := if n < 10 then Char.ofNat (48 + n) else Char.ofNat (55 + n)

/-- A number in lower-case digits, without leading zeros. -/
def lowerDigits (n : Nat) : List Char := Nat.toDigits 16 n

end Chronicle.Hex
