import Chronicle.Json.Value
import Chronicle.Settings.Basic
import Chronicle.Settings.File
import Chronicle.Toml.Document
/-!
# Loading settings

The usual settings lie at the bottom, a settings file over them, and the environment on top.
-/

namespace Chronicle.Settings

/-- Bytes without the mark of UTF-8 that may stand at their start. -/
def withoutMark : List UInt8 → List UInt8
  | 0xEF :: 0xBB :: 0xBF :: rest => rest
  | bs => bs

/-- The layer in a file. -/
def readFile (format : FileFormat) (content : List UInt8) : Except SettingsFault Layer :=
  let text := Utf8.decode (withoutMark content)
  match format with
  | .toml => match Toml.read? text with
    | some es => .ok es
    | none => .error .unreadable
  | .json => match Json.read (Utf8.encode text) with
    | .ok (.table es) => .ok es
    | _ => .error .unreadable

/-- The layer of the settings file. One that the user names has to be there. -/
def fileLayer (files : Files) (vars : Variables) (named : Option String) :
    Except SettingsFault Layer :=
  match files.find? (settingsPath vars named), named with
  | some (format, content), _ => readFile format content
  | none, some _ => .error .noFile
  | none, none => .ok []

/-- The settings under which the program runs. -/
def load (files : Files) (vars : Variables) (named : Option String) :
    Except SettingsFault Settings := do
  let usual : Settings := {}
  let file ← fileLayer files vars named
  ofTable (Layer.stack [usual.toTable, file, vars.layer])

end Chronicle.Settings
