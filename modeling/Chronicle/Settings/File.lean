import Chronicle.Files.Path
import Chronicle.Settings.Environment
/-!
# Settings files

A settings file is looked for under its path, and then under its path with the extension of each
format.
-/

namespace Chronicle

/-- The formats of settings files. YAML, INI, RON and JSON5 files, which could be read as well, are
left out: a file with one of their extensions counts as one of no known format. -/
inductive FileFormat where
  | toml
  | json
deriving DecidableEq, Repr

/-- The extension of a format. -/
def FileFormat.extension : FileFormat → List Char
  | .toml => ['t', 'o', 'm', 'l']
  | .json => ['j', 's', 'o', 'n']

/-- The formats in the order in which they are looked for. -/
def FileFormat.all : List FileFormat := [.toml, .json]

/-- The format of an extension. -/
def FileFormat.ofExtension? (ending : List Char) : Option FileFormat :=
  all.find? (·.extension == ending)

namespace Path

/-- The paths under which a settings file is looked for, in order. -/
def candidates (path : Path) : List Path :=
  path :: FileFormat.all.filterMap fun format => path.extended? format.extension

end Path

/-- The settings file of a path: its format and its content. A file of that very path has to be of a
known format. -/
def Files.find? (files : Files) (path : Path) : Option (FileFormat × List UInt8) :=
  match files path with
  | some content => do
    let format ← FileFormat.ofExtension? (← Path.extension? (← path.name?))
    return (format, content)
  | none => FileFormat.all.findSome? fun format => do
    return (format, ← files (← path.extended? format.extension))

/-- Where the settings file is if the user names none. -/
def defaultPath (vars : Variables) : Path :=
  let join (base rest : Path) : Path := if base = [] then rest else base ++ '/' :: rest
  let home := match vars.get? "XDG_CONFIG_HOME" with
    | some dir => dir.toList
    | none => join ((vars.get? "HOME").getD ".").toList ".config".toList
  join home "logweave/config.toml".toList

/-- Where the settings file is: where the user says, or else in its usual place. -/
def settingsPath (vars : Variables) (named : Option String) : Path :=
  match named with
  | some path => path.toList
  | none => defaultPath vars

end Chronicle
