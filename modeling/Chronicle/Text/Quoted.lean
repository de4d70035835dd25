import Chronicle.Text.Graphic
import Chronicle.Text.Hex
/-!
# Quoted text

Text between double quotes, with everything that is not graphic written as an escape, for messages
that show a user what was read.
-/

namespace Chronicle.Quoted

/-- One character inside the quotes. -/
def escape (c : Char) : List Char :=
  match c with
  | '\x00' => ['\\', '0']
  | '\t' => ['\\', 't']
  | '\r' => ['\\', 'r']
  | '\n' => ['\\', 'n']
  | '"' => ['\\', '"']
  | '\\' => ['\\', '\\']
  | c => if isGraphic c then [c] else ['\\', 'u', '\x7b'] ++ Hex.lowerDigits c.toNat ++ ['\x7d']

/-- A text in quotes. -/
def quote (s : String) : String :=
  String.ofList ('"' :: s.toList.flatMap escape ++ ['"'])

end Chronicle.Quoted
