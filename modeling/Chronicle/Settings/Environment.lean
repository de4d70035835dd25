import Chronicle.Number.Reading
import Chronicle.Settings.Layer
/-!
# The environment

Variables whose names begin with `LOGWEAVE_` in any case are settings. Two underscores in a name
stand for a dot. A value is a truth value, an integer or a number if it reads as one, and else a
text.
-/

namespace Chronicle

/-- The variables of a process. -/
abbrev Variables := List (String × String)

namespace Variables

/-- The value of a variable. -/
def get? (vars : Variables) (name : String) : Option String := vars.lookup name

/-- The variables in a block of bytes: a name, an equals sign and a value, and a zero after each. -/
def ofBlock (block : List UInt8) : Variables :=
  ((Utf8.decode block).splitOn '\x00').filterMap fun entry =>
    match entry.span (· != '=') with
    | (name, _ :: value) => some (String.ofList name, String.ofList value)
    | (_, []) => none

/-- A letter in lower case: an ASCII letter, or the Kelvin sign, whose lower case is one. -/
def lower (c : Char) : Char := if c = '\u212A' then 'k' else lowerAscii c

/-- How the names of settings begin. -/
def leader : List Char := "logweave_".toList

/-- Pairs of underscores as dots, from left to right. -/
def dots : List Char → List Char
  | '_' :: '_' :: rest => '.' :: dots rest
  | c :: rest => c :: dots rest
  | [] => []

/-- The key a variable sets, if it sets any. -/
def key? (name : String) : Option String :=
  (leader.isPrefixOf? (name.toList.map lower)).map fun rest => String.ofList (dots rest)

/-- The value a text stands for. -/
def value (s : String) : Datum :=
  match String.ofList (s.toList.map lowerAscii) with
  | "true" => .boolean true
  | "false" => .boolean false
  | _ => match Decimal.int64? s.toList with
    | some i => .integer i
    | none => match Binary64.read? s.toList with
      | some x => .float x
      | none => .text s

/-- The settings among the variables. -/
def layer (vars : Variables) : Layer :=
  vars.filterMap fun (name, s) => (key? name).map fun key => (key, value s)

end Variables

end Chronicle
