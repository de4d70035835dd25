import Chronicle.Text.Decimal
import Chronicle.Text.Hex
import Chronicle.Text.Utf8
/-!
# Label colours

A palette is a list of terminal colours. Each service has one of them, chosen by a hash of its
name, so a service keeps its colour whatever else is shown.
-/

namespace Chronicle

/-- The colours a terminal has names for. -/
inductive NamedColor where
  | black | darkRed | darkGreen | darkYellow | darkBlue | darkMagenta | darkCyan | grey
  | darkGrey | red | green | yellow | blue | magenta | cyan | white
deriving DecidableEq, Repr

/-- A terminal colour: one of the sixteen, an index into the table of 256, or its three parts. -/
inductive Color where
  | named (c : NamedColor)
  | indexed (n : Nat)
  | rgb (red green blue : Nat)
deriving DecidableEq, Repr

/-- The place of a named colour in the table of 256. -/
def NamedColor.index : NamedColor → Nat
  | .black => 0 | .darkRed => 1 | .darkGreen => 2 | .darkYellow => 3
  | .darkBlue => 4 | .darkMagenta => 5 | .darkCyan => 6 | .grey => 7
  | .darkGrey => 8 | .red => 9 | .green => 10 | .yellow => 11
  | .blue => 12 | .magenta => 13 | .cyan => 14 | .white => 15

/-- The words a palette may name colours by. -/
def NamedColor.ofWord? : String → Option NamedColor
  | "black" => some .black
  | "red" => some .darkRed
  | "green" => some .darkGreen
  | "yellow" => some .darkYellow
  | "blue" => some .darkBlue
  | "magenta" => some .darkMagenta
  | "cyan" => some .darkCyan
  | "gray" | "grey" => some .grey
  | "dark_gray" | "darkgray" | "dark_grey" | "darkgrey" => some .darkGrey
  | "light_red" => some .red
  | "light_green" => some .green
  | "light_yellow" => some .yellow
  | "light_blue" => some .blue
  | "light_magenta" => some .magenta
  | "light_cyan" => some .cyan
  | "white" => some .white
  | _ => none

/-- An ASCII letter in lower case; any other character as it is. -/
def lowerAscii (c : Char) : Char :=
  if 'A' ≤ c ∧ c ≤ 'Z' then Char.ofNat (c.toNat + 32) else c

namespace Color

/-- Six hexadecimal digits: red, green, blue. -/
def ofHex? (cs : List Char) : Option Color :=
  if cs.length = 6 then
    (Hex.value? cs).map fun n => .rgb (n / 65536) (n / 256 % 256) (n % 256)
  else none

/-- A name without regard to the case of its ASCII letters. -/
def lowered (name : String) : List Char := name.toList.map lowerAscii

/-- The colour a text in lower case stands for: a word, `#` and six digits, or `indexed:` and a
number. -/
def ofLowered? (s : List Char) : Option Color :=
  match NamedColor.ofWord? (String.ofList s) with
  | some c => some (.named c)
  | none =>
    match ['#'].isPrefixOf? s with
    | some digits => ofHex? digits
    | none =>
      match "indexed:".toList.isPrefixOf? s with
      | some number => (Decimal.unsigned? 255 number).map .indexed
      | none => none

/-- The colour a name stands for. Case does not matter. -/
def ofName? (name : String) : Option Color := ofLowered? (lowered name)

/-- The parameters of the escape sequence that selects a foreground colour. -/
def foreground : Color → String
  | .named c => s!"38;5;{c.index}"
  | .indexed n => s!"38;5;{n}"
  | .rgb r g b => s!"38;2;{r};{g};{b}"

end Color

/-- Usable colours, in order. -/
structure Palette where
  colors : List Color
deriving DecidableEq, Repr

namespace Palette

/-- The colours the names stand for; a name that stands for none is left out. -/
def ofNames (names : List String) : Palette := ⟨names.filterMap Color.ofName?⟩

/-- The names of the usual palette. -/
def defaultNames : List String := ["blue", "cyan", "green", "magenta", "red", "yellow"]

/-- The usual palette. -/
def default : Palette := ofNames defaultNames

/-- No colour can be had from the palette. -/
def isEmpty (p : Palette) : Bool := p.colors.isEmpty

/-- A hash of a name: its bytes as digits to base 31 after 5381, in 64 bits. -/
def hash (service : String) : Nat :=
  (Utf8.bytes service).foldl (fun h b => (h * 31 + b.toNat) % (Decimal.maxU64 + 1)) 5381

/-- The colour of a service, none if the palette is empty. -/
def colorOf (p : Palette) (service : String) : Option Color :=
  p.colors[hash service % p.colors.length]?

theorem colorOf_eq_none_iff (p : Palette) (service : String) :
    p.colorOf service = none ↔ p.colors = [] := by
  unfold colorOf
  cases h : p.colors with
  | nil => simp
  | cons c cs =>
    have bound : hash service % (c :: cs).length < (c :: cs).length :=
      Nat.mod_lt _ (Nat.succ_pos _)
    rw [List.getElem?_eq_getElem bound]
    simp

end Palette

end Chronicle
