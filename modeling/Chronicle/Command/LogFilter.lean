import Chronicle.Palette
import Chronicle.Text.Alphanumeric
import Chronicle.Text.Blank
/-!
# Log filters

Which of the program's own events are logged. A filter is a list of directives between commas, each
`target[span{field}]=level` with every part optional. An event goes by the directive that fits it
most closely.
-/

namespace Chronicle

/-- Levels of logging, the quietest first. -/
inductive LogLevel where
  | off | error | warn | info | debug | trace
deriving DecidableEq, Repr

namespace LogLevel

/-- All levels by their words, in order. -/
def words : List (String × LogLevel) :=
  [("off", .off), ("error", .error), ("warn", .warn), ("info", .info), ("debug", .debug),
   ("trace", .trace)]

/-- The level of a word in any case, or of its number. -/
def ofWord? (s : List Char) : Option LogLevel :=
  if s = [] then some .error
  else match Decimal.unsigned? Decimal.maxU64 s with
    | some n => (words[n]?).map (·.2)
    | none => words.lookup (String.ofList (s.map lowerAscii))

/-- Are warnings logged at this level? -/
def admitsWarnings (level : LogLevel) : Bool := level != .off && level != .error

end LogLevel

/-- Something the program logs: where in the program, and the names of what it tells. -/
structure LogEvent where
  target : String
  fields : List String
deriving DecidableEq, Repr

/-- A line whose stamp could not be read. -/
def LogEvent.unreadable : LogEvent :=
  ⟨"logweave_mux::window", ["message", "service", "line", "error"]⟩

/-- A service that is not followed further, because waiting for its container failed. -/
def LogEvent.lost : LogEvent := ⟨"logweave_mux::engine", ["message", "service", "error"]⟩

/-- A directive of a filter. -/
structure LogDirective where
  /-- How the targets of events begin. -/
  target : Option (List Char) := none
  /-- It is about a span. The program has none. -/
  inSpan : Bool := false
  /-- What an event has to tell. -/
  field : Option (List Char) := none
  /-- The field has to have a given value. That is looked for in spans only. -/
  hasValue : Bool := false
  level : LogLevel := .trace
deriving DecidableEq, Repr

namespace LogDirective

/-- Characters that a target may begin with. -/
def isTargetStart (c : Char) : Bool := c == '-' || c == ':' || c == '_' || isAlphanumeric c

/-- A directive of which the level is still to be read. -/
structure Stem where
  directive : LogDirective
  /-- The text of the level, after an equals sign. -/
  level : Option (List Char) := none
  /-- A word alone, which may be a level. -/
  isWord : Bool := false

/-- What may follow a closing bracket: an equals sign and a level. -/
def afterSpan? (d : LogDirective) (s : List Char) : Option Stem :=
  match s with
  | '=' :: level => some { directive := d, level := some level }
  | _ => if s.all isBlank then some { directive := d } else none

/-- The field of a directive: a name, and perhaps an equals sign and a value. -/
def withField? (d : LogDirective) (field : List Char) : Option LogDirective :=
  if field = [] then none
  else some { d with field := some (field.takeWhile (· != '=')), hasValue := field.contains '=' }

/-- What stands in brackets: a span, a field in braces, or both. -/
def inBrackets? (d : LogDirective) (s : List Char) : Option Stem :=
  let name := s.takeWhile fun c => c != ']' && c != '\x7b'
  match s.drop name.length with
  | ']' :: rest => afterSpan? { d with inSpan := true } rest
  | '\x7b' :: inside => do
    let field := inside.takeWhile (· != '\x7d')
    let d ← withField? { d with inSpan := name ≠ [] } field
    match inside.drop field.length with
    | '\x7d' :: ']' :: rest => d.afterSpan? rest
    | _ => none
  | _ => none

/-- Reads a directive up to the equals sign before its level. -/
def stem? (s : List Char) : Option Stem :=
  match s with
  | [] => none
  | '[' :: rest => inBrackets? {} rest
  | first :: _ => do
    guard (isTargetStart first)
    let target := s.takeWhile fun c => c != '=' && c != '['
    match s.drop target.length with
    | '=' :: level => return { directive := { target := some target }, level := some level }
    | '[' :: rest => inBrackets? { target := some target } rest
    | _ => return { directive := { target := some s }, isWord := true }

/-- The directive with its level. If no level is written all are meant. A word that is the name of a
level is one. -/
def Stem.directive? (stem : Stem) : Option LogDirective :=
  match stem.level with
  | some [] => some stem.directive
  | some text => (LogLevel.ofWord? text).map fun level => { stem.directive with level }
  | none => match stem.isWord, stem.directive.target.bind LogLevel.ofWord? with
    | true, some level => some { level }
    | _, _ => some stem.directive

/-- Reads a directive. One that begins with white space may have no level, and stands as a whole for
a target; no target begins so. -/
def read? (s : List Char) : Option LogDirective := do
  let stem ← stem? (trimStart s)
  if s.head?.any isBlank then
    guard stem.level.isNone
    return { target := some s }
  else stem.directive?

/-- Does the directive apply to an event? -/
def applies (d : LogDirective) (e : LogEvent) : Bool :=
  !d.inSpan && !d.hasValue &&
  d.target.all (·.isPrefixOf e.target.toList) &&
  d.field.all fun name => e.fields.contains (String.ofList name)

/-- How closely a directive fits: by its target first, then by its field. -/
def closeness (d : LogDirective) : Nat × Nat :=
  ((d.target.map (·.length + 1)).getD 0, if d.field.isSome then 1 else 0)

/-- Does a directive fit at least as closely as another? -/
def isAsClose (d other : LogDirective) : Bool :=
  let (a, b) := (d.closeness, other.closeness)
  b.1 < a.1 || (b.1 == a.1 && b.2 < a.2) ||
    (a == b && String.ofList (other.field.getD []) ≤ String.ofList (d.field.getD []))

end LogDirective

/-- A filter. -/
abbrev LogFilter := List LogDirective

namespace LogFilter

/-- Reads a filter. Empty directives are left out. -/
def read? (s : String) : Option LogFilter :=
  ((s.toList.splitOn ',').filter (· ≠ [])).mapM LogDirective.read?

/-- The directive that an event goes by: of those that fit it most closely, the last. -/
def directiveFor? (f : LogFilter) (e : LogEvent) : Option LogDirective :=
  (f.filter (·.applies e)).foldl (fun best d => match best with
    | some b => if d.isAsClose b then some d else some b
    | none => some d) none

/-- The filter of a text. Warnings and errors are logged if there is none that can be read. -/
def ofText (s : Option String) : LogFilter := (s.bind read?).getD [{ level := .warn }]

/-- Is a warning logged? -/
def admitsWarning (f : LogFilter) (e : LogEvent) : Bool :=
  (f.directiveFor? e).any (·.level.admitsWarnings)

end LogFilter

end Chronicle
