import Chronicle.Data.Datum
import Chronicle.Number.Shortest
import Chronicle.Palette
import Chronicle.Text.Decimal
/-!
# Settings

What can be set, what it is when nothing is, and how a value becomes a setting. Values are lenient:
a number may be written as text, and a text as a number.
-/

namespace Chronicle

/-- When labels have a colour. -/
inductive ColorMode where
  | auto
  | always
  | never
deriving DecidableEq, Repr

/-- The word for a mode. -/
def ColorMode.word : ColorMode → String
  | .auto => "auto"
  | .always => "always"
  | .never => "never"

/-- The mode a word stands for. -/
def ColorMode.ofWord? : String → Option ColorMode
  | "auto" => some .auto
  | "always" => some .always
  | "never" => some .never
  | _ => none

/-- How records are gathered: times in milliseconds, and queue slots for each service. -/
structure Timing where
  window : Nat := 100
  settle : Nat := 500
  queuePerService : Nat := 32
deriving DecidableEq, Repr

/-- How lines look. -/
structure Appearance where
  color : ColorMode := .auto
  separator : String := "›"
  palette : List String := Palette.defaultNames
deriving DecidableEq, Repr

/-- All settings. -/
structure Settings where
  timing : Timing := {}
  appearance : Appearance := {}
  /-- The address of the Docker daemon. -/
  host : String := "unix:///var/run/docker.sock"
deriving DecidableEq, Repr

/-- Why there are no settings. -/
inductive SettingsFault where
  /-- The file named by the user is missing or of no known format. -/
  | noFile
  /-- A file is not of its format. -/
  | unreadable
  /-- A value cannot be converted. -/
  | wrongType (key : String)
  /-- A value is refused. -/
  | refused (key : String)
deriving DecidableEq, Repr

namespace Settings

/-! ## From values to settings -/

/-- Numbers that are words. -/
def numberOfWord? (s : List Char) : Option Nat :=
  match String.ofList (s.map lowerAscii) with
  | "true" | "on" | "yes" => some 1
  | "false" | "off" | "no" => some 0
  | _ => none

/-- A number of 64 bits, not negative. -/
def number? : Datum → Option Nat
  | .integer i => if 0 ≤ i then some i.toNat else none
  | .boolean b => some (if b then 1 else 0)
  | .float x => some (x.toNat Decimal.maxU64)
  | .text s => (numberOfWord? s.toList).or (Decimal.unsigned? Decimal.maxU64 s.toList)
  | _ => none

/-- A text. -/
def text? : Datum → Option String
  | .text s => some s
  | .boolean b => some (if b then "true" else "false")
  | .integer i => some (String.ofList (Decimal.signed i))
  | .float x => some x.text
  | _ => none

/-- A value with the key it is found under. -/
structure Located where
  key : String
  value : Datum

/-- Converts a value, if it is there. -/
def convert {α : Type} (read : Datum → Option α) (otherwise : α) :
    Option Located → Except SettingsFault α
  | none => .ok otherwise
  | some l => match read l.value with
    | some a => .ok a
    | none => .error (.wrongType l.key)

/-- When labels have a colour: a word, or a table with one entry of that name. -/
def color (otherwise : ColorMode) : Option Located → Except SettingsFault ColorMode
  | none => .ok otherwise
  | some l =>
    let mode := match l.value with
      | .text s => ColorMode.ofWord? s
      | .table [(key, _)] => ColorMode.ofWord? key
      | _ => none
    match mode with
    | some m => .ok m
    | none => .error (.refused l.key)

/-- A key with an index. -/
def indexed (key : String) (i : Nat) : String := s!"{key}[{i}]"

/-- The names of colours. -/
def paletteNames (otherwise : List String) : Option Located → Except SettingsFault (List String)
  | none => .ok otherwise
  | some l => match l.value with
    | .array xs => xs.zipIdx.mapM fun (x, i) =>
      match text? x with
      | some s => .ok s
      | none => .error (.wrongType (indexed l.key i))
    | _ => .error (.refused l.key)

/-- The values of a section under some names: by name from a table, by place from an array. -/
def section? (root : List (String × Datum)) (name : String) (names : List String) :
    Except SettingsFault (String → Option Located) :=
  match Datum.get? root name with
  | none => .ok fun _ => none
  | some (.table es) => .ok fun n => (Datum.get? es n).map fun value => ⟨name ++ "." ++ n, value⟩
  | some (.array xs) => .ok fun n =>
    let i := names.idxOf n
    xs[i]?.map fun value => ⟨indexed name i, value⟩
  | some _ => .error (.refused name)

/-- The timing settings. -/
def timingOf (root : List (String × Datum)) : Except SettingsFault Timing := do
  let find ← section? root "engine" ["window_ms", "restart_settle_ms", "queue_per_service"]
  let usual : Timing := {}
  return {
    window := ← convert number? usual.window (find "window_ms")
    settle := ← convert number? usual.settle (find "restart_settle_ms")
    queuePerService := ← convert number? usual.queuePerService (find "queue_per_service") }

/-- The appearance settings. -/
def appearanceOf (root : List (String × Datum)) : Except SettingsFault Appearance := do
  let find ← section? root "output" ["color", "separator", "palette"]
  let usual : Appearance := {}
  return {
    color := ← color usual.color (find "color")
    separator := ← convert text? usual.separator (find "separator")
    palette := ← paletteNames usual.palette (find "palette") }

/-- The address of the daemon. -/
def hostOf (root : List (String × Datum)) : Except SettingsFault String := do
  let find ← section? root "docker" ["host"]
  let usual : Settings := {}
  convert text? usual.host (find "host")

/-- The settings that a table of values stands for. -/
def ofTable (root : List (String × Datum)) : Except SettingsFault Settings := do
  return { timing := ← timingOf root, appearance := ← appearanceOf root, host := ← hostOf root }

/-! ## From settings to values -/

/-- Settings as a table of values. -/
def toTable (s : Settings) : List (String × Datum) :=
  [("engine", .table [
      ("window_ms", .integer s.timing.window),
      ("restart_settle_ms", .integer s.timing.settle),
      ("queue_per_service", .integer s.timing.queuePerService)]),
   ("output", .table [
      ("color", .text s.appearance.color.word),
      ("separator", .text s.appearance.separator),
      ("palette", .array (s.appearance.palette.map .text))]),
   ("docker", .table [("host", .text s.host)])]

end Settings

end Chronicle
