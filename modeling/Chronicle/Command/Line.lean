import Chronicle.Settings.Basic
/-!
# The command line

Arguments are read from left to right. The value of an option is looked at once the next known
argument comes, or at the end; of several failures the first one counts.
-/

namespace Chronicle

/-- What a user asks for. -/
structure Invocation where
  follow : Bool := false
  previous : Bool := false
  /-- The settings file. -/
  config : Option String := none
  dockerHost : Option String := none
  color : Option ColorMode := none
  debug : Bool := false
  services : List String := []
deriving DecidableEq, Repr

/-- Why a command line asks for nothing that can be done. -/
inductive UsageFault where
  | missing
  | unknown
  | conflict
  | badValue
  | tooManyValues
  | help
  | version
deriving DecidableEq, Repr

namespace Invocation

/-- What an argument may name. -/
inductive Name where
  | follow | previous | debug | help | version
  | config | dockerHost | color
deriving DecidableEq, Repr

/-- The name a long argument has. -/
def Name.ofLong? : String → Option Name
  | "follow" => some .follow
  | "previous" => some .previous
  | "debug" => some .debug
  | "help" => some .help
  | "version" => some .version
  | "config" => some .config
  | "docker-host" => some .dockerHost
  | "color" => some .color
  | _ => none

/-- The name a letter has. -/
def Name.ofShort? : Char → Option Name
  | 'f' => some .follow
  | 'p' => some .previous
  | 'h' => some .help
  | 'V' => some .version
  | _ => none

/-- Does a value follow the name? -/
def Name.takesValue : Name → Bool
  | .config | .dockerHost | .color => true
  | _ => false

/-- The arguments read so far. -/
structure Draft where
  call : Invocation := {}
  /-- The names that have been met. -/
  seen : List Name := []
  /-- An option that has not been looked at, and its value if that has come. -/
  pending : Option (Name × Option String) := none

namespace Draft

/-- Notes a name, which may come once. -/
def meet (d : Draft) (n : Name) : Except UsageFault Draft :=
  if n ∈ d.seen then .error .conflict else .ok { d with seen := n :: d.seen }

/-- Sets the value of an option. -/
def setValue (d : Draft) (n : Name) (value : String) : Except UsageFault Draft := do
  let d ← d.meet n
  match n with
  | .config =>
    if value = "" then .error .badValue
    else return { d with call := { d.call with config := some value } }
  | .dockerHost => return { d with call := { d.call with dockerHost := some value } }
  | .color => match ColorMode.ofWord? value with
    | some mode => return { d with call := { d.call with color := some mode } }
    | none => .error .badValue
  | _ => return d

/-- Looks at the option that is pending, if there is one. -/
def settle (d : Draft) : Except UsageFault Draft :=
  match d.pending with
  | none => .ok d
  | some (_, none) => .error .badValue
  | some (n, some value) => { d with pending := none }.setValue n value

/-- A name without a value. -/
def flag (d : Draft) (n : Name) : Except UsageFault Draft := do
  let d ← d.settle
  match n with
  | .help => .error .help
  | .version => .error .version
  | _ =>
    let d ← d.meet n
    match n with
    | .follow => return { d with call := { d.call with follow := true } }
    | .previous => return { d with call := { d.call with previous := true } }
    | .debug => return { d with call := { d.call with debug := true } }
    | _ => return d

/-- A long argument: its name and what stands after its equals sign, if it has one. -/
def long (d : Draft) (name : String) (value : Option String) : Except UsageFault Draft :=
  match Name.ofLong? name, value with
  | none, _ => .error .unknown
  | some n, some value =>
    if n.takesValue then do (← d.settle).setValue n value else .error .tooManyValues
  | some n, none =>
    if n.takesValue then do return { ← d.settle with pending := some (n, none) } else d.flag n

/-- Letters behind one hyphen. -/
def letters (d : Draft) : List Char → Except UsageFault Draft
  | [] => .ok d
  | c :: rest => match Name.ofShort? c with
    | none => .error .unknown
    | some n => do letters (← d.flag n) rest

/-- The name of a service. -/
def service (d : Draft) (name : String) : Except UsageFault Draft := do
  let d ← d.settle
  return { d with call := { d.call with services := d.call.services ++ [name] } }

/-- An argument that looks like no option: a value that is waited for, or a service. -/
def plain (d : Draft) (s : String) : Except UsageFault Draft :=
  match d.pending with
  | some (n, none) => .ok { d with pending := some (n, some s) }
  | _ => d.service s

/-- One argument. -/
def argument (d : Draft) (s : String) : Except UsageFault Draft :=
  match s.toList with
  | '-' :: '-' :: body =>
    let name := String.ofList (body.takeWhile (· != '='))
    match body.dropWhile (· != '=') with
    | [] => d.long name none
    | _ :: value => d.long name (some (String.ofList value))
  | '-' :: c :: rest => d.letters (c :: rest)
  | _ => d.plain s

/-- All arguments. After two hyphens each of them is a service. -/
def arguments (d : Draft) : List String → Except UsageFault Draft
  | [] => .ok d
  | "--" :: rest => rest.foldlM service d
  | s :: rest => do arguments (← d.argument s) rest

end Draft

/-- What a command line asks for. -/
def read (args : List String) : Except UsageFault Invocation := do
  let d ← Draft.arguments {} args
  let d ← d.settle
  if d.call.services = [] then .error .missing else return d.call

end Invocation

end Chronicle
