import Chronicle.Palette
import Chronicle.Record
/-!
# Layout

How an entry looks as a line: `service › text`, or the text alone when only one service is shown.
A whole line takes the place of both. Labels may have a colour; `Layout.muted` keeps the escape
sequences and drops the colour from them.
-/

namespace Chronicle

/-- How lines look. -/
structure Layout where
  palette : Option Palette := none
  separator : String := "›"
  labels : Bool := true
  muted : Bool := false
deriving DecidableEq, Repr

namespace Layout

/-- Labels in the colours of a palette. A palette without colours leaves them plain. -/
def withPalette (l : Layout) (p : Palette) : Layout :=
  { l with palette := if p.isEmpty then none else some p }

/-- An escape sequence that sets how text looks. -/
def style (parameters : String) : String := "\x1b[" ++ parameters ++ "m"

/-- A text in a foreground colour. -/
def paint (muted : Bool) (c : Color) (text : String) : String :=
  if muted then style "" ++ text ++ style ""
  else style c.foreground ++ text ++ style "39"

/-- The label of a service. -/
def label (l : Layout) (service : String) : String :=
  match l.palette.bind (·.colorOf service) with
  | some c => paint l.muted c service
  | none => service

/-- An entry as a line, without its newline. -/
def line (l : Layout) (e : Entry) : String :=
  match e.wholeLine with
  | some line => line
  | none =>
    if l.labels then l.label e.service ++ " " ++ l.separator ++ " " ++ e.text else e.text

/-- An entry as the bytes of a line. -/
def lineBytes (l : Layout) (e : Entry) : List UInt8 := Utf8.bytes (l.line e ++ "\n")

end Layout

end Chronicle
