import Chronicle.Json.Numeral
import Chronicle.Json.Text
/-!
# Values nobody wants

`skip` passes over a value of any depth. The brackets that are open are a list, so depth costs
nothing but its length.
-/

namespace Chronicle.Json

/-- The two kinds of brackets. -/
inductive Bracket where
  | square
  | curly
deriving DecidableEq, Repr

/-- The character that closes a bracket. -/
def Bracket.close : Bracket → Char
  | .square => ']'
  | .curly => '\x7d'

/-- After a value: closes brackets up to a comma, and gives those that are still open. -/
def closing : List Bracket → Reader (List Bracket)
  | [] => return []
  | b :: outer => do
    let c ← ahead
    if c = ',' then advance; return b :: outer
    else if c = b.close then advance; closing outer
    else throw .malformed

/-- What stands before a value in a bracket: nothing, or a key and a colon. -/
def skipKey : Bracket → Reader Unit
  | .square => return
  | .curly => do
    mark '"'
    skipText
    mark ':'

/-- A value without brackets. -/
def skipScalar (first : Char) : Reader Unit :=
  match first with
  | 'n' => word "null".toList
  | 't' => word "true".toList
  | 'f' => word "false".toList
  | '"' => do advance; skipText
  | c => do
    if c = '-' ∨ Decimal.isDigit c then
      let _ ← numeral .malformed
    else throw .malformed

/-- Passes over a value inside open brackets, and over what follows it up to the last of them. -/
def skipInside : Nat → List Bracket → Reader Unit
  | 0, _ => throw .cutShort
  | fuel + 1, outer => do
    let inside (b : Bracket) : Reader (List Bracket) := do
      advance
      if (← ahead) = b.close then
        advance
        closing outer
      else return b :: outer
    let first ← ahead
    let stack ← match first with
      | '[' => inside .square
      | '\x7b' => inside .curly
      | c => do
        skipScalar c
        closing outer
    match stack with
    | [] => return
    | b :: _ =>
      skipKey b
      skipInside fuel stack

/-- Passes over a value. -/
def skip : Reader Unit := fun bs => skipInside (bs.length + 1) [] bs

end Chronicle.Json
