/-!
# UTF-8

Bytes are lists of `UInt8`. `encode` writes text, `decode` reads any bytes at all: each maximal
piece that no sequence can begin with or go on with becomes one replacement character.
`decode?` reads only what `encode` can have written.
-/

namespace Chronicle.Utf8

/-- The bytes of a text. -/
def encode (s : List Char) : List UInt8 := s.flatMap String.utf8EncodeChar

/-- The bytes of a string. -/
def bytes (s : String) : List UInt8 := encode s.toList

/-- Stands for bytes that are no character. -/
def replacement : Char := '\uFFFD'

/-- A sequence that has begun: the bits read so far, how many bytes are still to come, and the
bounds of the next one. -/
structure Partial where
  code : Nat
  left : Nat
  low : Nat := 0x80
  high : Nat := 0xBF
deriving DecidableEq, Repr

/-- What a byte says at the start of a character. -/
inductive Lead where
  | char (c : Char)
  | start (p : Partial)
  | bad
deriving DecidableEq, Repr

/-- The first byte of a character. The bounds on the second byte keep out long forms, surrogates
and code points past U+10FFFF. -/
def lead (b : UInt8) : Lead :=
  let n := b.toNat
  if n < 0x80 then .char (Char.ofNat n)
  else if n < 0xC2 then .bad
  else if n < 0xE0 then .start { code := n - 0xC0, left := 1 }
  else if n = 0xE0 then .start { code := 0, left := 2, low := 0xA0 }
  else if n = 0xED then .start { code := 0xD, left := 2, high := 0x9F }
  else if n < 0xF0 then .start { code := n - 0xE0, left := 2 }
  else if n = 0xF0 then .start { code := 0, left := 3, low := 0x90 }
  else if n < 0xF4 then .start { code := n - 0xF0, left := 3 }
  else if n = 0xF4 then .start { code := 4, left := 3, high := 0x8F }
  else .bad

/-- Does the sequence go on with this byte? -/
def Partial.accepts (p : Partial) (b : UInt8) : Bool :=
  p.low ≤ b.toNat && b.toNat ≤ p.high

/-- The bits of the sequence after one more byte. -/
def Partial.extend (p : Partial) (b : UInt8) : Nat := p.code * 64 + (b.toNat - 0x80)

/-- Reads bytes as text, from inside a sequence or from between characters. -/
def decodeFrom : Option Partial → List UInt8 → List Char
  | none, [] => []
  | some _, [] => [replacement]
  | none, b :: rest =>
    match lead b with
    | .char c => c :: decodeFrom none rest
    | .start p => decodeFrom (some p) rest
    | .bad => replacement :: decodeFrom none rest
  | some p, b :: rest =>
    if p.accepts b then
      if p.left ≤ 1 then Char.ofNat (p.extend b) :: decodeFrom none rest
      else decodeFrom (some { code := p.extend b, left := p.left - 1 }) rest
    else
      match lead b with
      | .char c => replacement :: c :: decodeFrom none rest
      | .start q => replacement :: decodeFrom (some q) rest
      | .bad => replacement :: replacement :: decodeFrom none rest

/-- Reads any bytes as text. -/
def decode (bs : List UInt8) : List Char := decodeFrom none bs

/-- Reads any bytes as a string. -/
def text (bs : List UInt8) : String := String.ofList (decode bs)

/-- Reads bytes that are the encoding of a text, and nothing else. -/
def decode? (bs : List UInt8) : Option (List Char) :=
  if encode (decode bs) = bs then some (decode bs) else none

@[simp] theorem encode_nil : encode [] = [] := rfl

@[simp] theorem encode_cons (c : Char) (s : List Char) :
    encode (c :: s) = String.utf8EncodeChar c ++ encode s := rfl

theorem encode_append (s t : List Char) : encode (s ++ t) = encode s ++ encode t := by
  simp [encode]

@[simp] theorem decode_nil : decode [] = [] := rfl

end Chronicle.Utf8
