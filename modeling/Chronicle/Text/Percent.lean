import Chronicle.Text.Hex
import Chronicle.Text.Utf8
/-!
# Percent encoding

Names as parts of a URL: letters, digits and `-._~` stand for themselves, any other byte is written
as `%XX`. `decode?` reads it back.
-/

namespace Chronicle.Percent

/-- Bytes that need no encoding: ASCII letters and digits, and `-`, `.`, `_`, `~`. -/
def isUnreserved (b : UInt8) : Bool :=
  let n := b.toNat
  (0x30 ≤ n && n ≤ 0x39) || (0x41 ≤ n && n ≤ 0x5A) || (0x61 ≤ n && n ≤ 0x7A) ||
  n == 0x2D || n == 0x2E || n == 0x5F || n == 0x7E

/-- One byte as part of a URL. -/
def encodeByte (b : UInt8) : List Char :=
  if isUnreserved b then [Char.ofNat b.toNat]
  else ['%', Hex.upper (b.toNat / 16), Hex.upper (b.toNat % 16)]

/-- A text as part of a URL. -/
def encode (s : String) : List Char := (Utf8.bytes s).flatMap encodeByte

/-- The bytes a part of a URL stands for. -/
def decode? : List Char → Option (List UInt8)
  | [] => some []
  | '%' :: a :: b :: rest => do
    let hi ← Hex.digit? a
    let lo ← Hex.digit? b
    let bytes ← decode? rest
    return UInt8.ofNat (hi * 16 + lo) :: bytes
  | c :: rest =>
    if c.toNat < 128 ∧ isUnreserved (UInt8.ofNat c.toNat) then
      (decode? rest).map (UInt8.ofNat c.toNat :: ·)
    else none

end Chronicle.Percent
