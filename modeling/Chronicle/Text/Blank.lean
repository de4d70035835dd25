/-!
# White space

The characters with the `White_Space` property.
-/

namespace Chronicle

/-- White space of any script: the ASCII blanks, U+0085 and the spaces and separators beyond. -/
def isBlank (c : Char) : Bool :=
  let n := c.toNat
  (9 ≤ n && n ≤ 13) || n == 0x20 || n == 0x85 || n == 0xA0 || n == 0x1680 ||
  (0x2000 ≤ n && n ≤ 0x200A) || n == 0x2028 || n == 0x2029 || n == 0x202F ||
  n == 0x205F || n == 0x3000

/-- A text without the white space at its start. -/
def trimStart (s : List Char) : List Char := s.dropWhile isBlank

/-- A text without the white space around it. -/
def trim (s : List Char) : List Char := (trimStart (trimStart s).reverse).reverse

end Chronicle
