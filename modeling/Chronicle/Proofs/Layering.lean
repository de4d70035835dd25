import Mathlib.Data.List.Induction
import Chronicle.Proofs.Documents
/-!
# Settings, key by key

Settings come in layers: the usual ones, those of a file, those of the environment. Where the keys
of a file and of the environment are plain (`Settings.Regular`), each setting is decided by itself
(`Settings.load_key_by_key`). `Settings.Decides` says which value stands for a setting in a table of
values. The layers are followed by what each does to that (`Decides.overlay_file`,
`Decides.overlay_environment`), and `Settings.ofTable_eq_ok` says what is read of the outcome.
-/

namespace Chronicle

/-! ## The settings one by one -/

namespace Variables

/-- What the environment sets a key to. Of several variables with one key the last counts. -/
def setting? (vars : Variables) (key : String) : Option Datum :=
  (vars.reverse.find? fun v => key? v.1 == some key).map fun v => value v.2

theorem setting?_append (vars : Variables) (v : String × String) (key : String) :
    setting? (vars ++ [v]) key =
      if key? v.1 = some key then some (value v.2) else setting? vars key := by
  rw [setting?, List.reverse_append, List.reverse_singleton, List.singleton_append,
    List.find?_cons]
  by_cases same : key? v.1 = some key
  · rw [if_pos same, beq_iff_eq.2 same]
    rfl
  · rw [if_neg same, beq_false_of_ne same]
    rfl

theorem layer_append (vars : Variables) (v : String × String) :
    layer (vars ++ [v]) = layer vars ++ ((key? v.1).map fun key => (key, value v.2)).toList := by
  rw [layer, List.filterMap_append, layer]
  cases found : key? v.1 <;> simp [found]

theorem value_isScalar (s : String) : (value s).IsScalar := by
  unfold value
  repeat' split
  all_goals trivial

end Variables

/-- A setting. -/
inductive Setting where
  | window
  | settle
  | queuePerService
  | color
  | separator
  | palette
  | host
deriving DecidableEq, Repr

namespace Setting

/-- The section a setting stands in. -/
def part : Setting → String
  | .window | .settle | .queuePerService => "engine"
  | .color | .separator | .palette => "output"
  | .host => "docker"

/-- The name of a setting in its section. -/
def name : Setting → String
  | .window => "window_ms"
  | .settle => "restart_settle_ms"
  | .queuePerService => "queue_per_service"
  | .color => "color"
  | .separator => "separator"
  | .palette => "palette"
  | .host => "host"

/-- The key of a setting. -/
def key (k : Setting) : String := k.part ++ "." ++ k.name

/-- What a setting is if nothing sets it. -/
def usual : Setting → Datum
  | .window => .integer 100
  | .settle => .integer 500
  | .queuePerService => .integer 32
  | .color => .text "auto"
  | .separator => .text "›"
  | .palette => .array (["blue", "cyan", "green", "magenta", "red", "yellow"].map .text)
  | .host => .text "unix:///var/run/docker.sock"

/-- The type of the field of a setting. -/
def Field : Setting → Type
  | .window | .settle | .queuePerService => Nat
  | .color => ColorMode
  | .separator | .host => String
  | .palette => List String

/-- The field of a setting. -/
def field (s : Settings) : (k : Setting) → k.Field
  | .window => s.timing.window
  | .settle => s.timing.settle
  | .queuePerService => s.timing.queuePerService
  | .color => s.appearance.color
  | .separator => s.appearance.separator
  | .palette => s.appearance.palette
  | .host => s.host

/-- A mode as a word, or as a table with one entry of that name. -/
def colorMode? : Datum → Option ColorMode
  | .text s => ColorMode.ofWord? s
  | .table [(key, _)] => ColorMode.ofWord? key
  | _ => none

/-- An array of texts. -/
def texts? : Datum → Option (List String)
  | .array xs => xs.mapM Settings.text?
  | _ => none

/-- A value as the field of a setting. -/
def read? : (k : Setting) → Datum → Option k.Field
  | .window | .settle | .queuePerService => Settings.number?
  | .color => colorMode?
  | .separator | .host => Settings.text?
  | .palette => texts?

/-- What a file has for a setting. -/
def inFile? (k : Setting) (file : Layer) : Option Datum :=
  (Datum.get? file k.part).bind fun d => Datum.get? d.entries k.name

/-- The value that decides a setting: that of the environment if it sets it, else that of the file
if it has one, else the usual one. -/
def raw (file : Layer) (vars : Variables) (k : Setting) : Datum :=
  (vars.setting? k.key).getD ((k.inFile? file).getD k.usual)

theorem isIdentifier_part (k : Setting) : KeyPath.isIdentifier k.part := by
  cases k <;> decide

theorem isIdentifier_name (k : Setting) : KeyPath.isIdentifier k.name := by
  cases k <;> decide

theorem pair_eq_key_iff {part name : String} (plain : KeyPath.isIdentifier part)
    (plain' : KeyPath.isIdentifier name) (k : Setting) :
    part ++ "." ++ name = k.key ↔ part = k.part ∧ name = k.name := by
  constructor
  · exact KeyPath.pair_inj plain plain' k.isIdentifier_part k.isIdentifier_name
  · rintro ⟨rfl, rfl⟩
    rfl

theorem usual_entries (k : Setting) : k.usual.entries = [] := by
  cases k <;> rfl

end Setting

namespace Settings

/-- Files and environments whose keys name settings: plain identifiers in the file, with tables as
sections, and two of them in each variable. -/
structure Regular (file : Layer) (vars : Variables) : Prop where
  identifiers : ∀ e ∈ file, KeyPath.isIdentifier e.1
  tables : ∀ (k : Setting) (d : Datum), Datum.get? file k.part = some d → d.isTable
  pairs : ∀ v ∈ vars, ∀ key, Variables.key? v.1 = some key → ∃ part name,
    KeyPath.isIdentifier part ∧ KeyPath.isIdentifier name ∧ key = part ++ "." ++ name

/-- In a table of values this one stands for a setting. -/
def Decides (root : List (String × Datum)) (k : Setting) (d : Datum) : Prop :=
  ∃ es, Datum.get? root k.part = some (.table es) ∧ Datum.get? es k.name = some d

/-! ## What each layer decides -/

section Layers

variable {root : List (String × Datum)} {k : Setting} {d : Datum} {file : Layer}
  {vars : Variables}

theorem decides_usual (k : Setting) : Decides ({} : Settings).toTable k k.usual := by
  cases k <;> exact ⟨_, rfl, rfl⟩

/-- A file decides a setting that it has, and leaves one that it does not have. -/
theorem Decides.overlay_file (h : Decides root k d) (bare : d.entries = [])
    (keyed : (Datum.table file).WellKeyed) (regular : Regular file vars) :
    Decides (Datum.overlayEntries root file) k ((k.inFile? file).getD d) := by
  obtain ⟨es, there, value⟩ := h
  have here := Datum.get?_overlayEntries keyed.distinct root k.part
  cases found : Datum.get? file k.part with
  | none =>
    have absent : k.inFile? file = none := by simp [Setting.inFile?, found]
    rw [found] at here
    exact ⟨es, here.trans there, by rw [absent, value, Option.getD_none]⟩
  | some d' =>
    obtain ⟨new, rfl⟩ := Datum.isTable_iff.1 (regular.tables k d' found)
    have inside := keyed.get? found
    have same : k.inFile? file = Datum.get? new k.name := by
      simp [Setting.inFile?, found, Datum.entries]
    -- The section of the file is laid over the one below, and there its value over the one below.
    have laid := Datum.get?_overlayEntries inside.distinct es k.name
    simp only [found, there, Option.getD_some, Datum.overlay] at here
    refine ⟨_, here, laid.trans ?_⟩
    rw [same]
    cases set : Datum.get? new k.name with
    | none => exact value
    | some v => simp only [value, Option.getD_some, (inside.get? set).overlay_eq bare]

/-- A value that is put into a section decides the setting of that name, and no other. -/
theorem Decides.put (h : Decides root k d) (part name : String) (new : Datum) :
    Decides
      (Datum.put part (.table (Datum.put name new ((Datum.get? root part).getD .nil).entries)) root)
      k (if part = k.part ∧ name = k.name then new else d) := by
  obtain ⟨es, there, value⟩ := h
  by_cases inside : part = k.part
  · subst inside
    refine ⟨_, Datum.get?_put_self _ _ _, ?_⟩
    rw [there, Option.getD_some, Datum.entries]
    by_cases same : name = k.name
    · rw [if_pos ⟨rfl, same⟩, same, Datum.get?_put_self]
    · rw [if_neg fun both => same both.2, Datum.get?_put_of_ne _ _ (Ne.symm same), value]
  · refine ⟨es, ?_, ?_⟩
    · rw [Datum.get?_put_of_ne _ _ (Ne.symm inside), there]
    · rw [if_neg fun both => inside both.1, value]

/-- The environment decides a setting that it sets, and leaves one that it does not set. -/
theorem Decides.overlay_environment {base : Datum} (h : Decides base.entries k d)
    (regular : Regular file vars) :
    Decides (Layer.overlay base vars.layer).entries k ((vars.setting? k.key).getD d) := by
  have pairs := regular.pairs
  clear regular
  -- The last variable lies over all before it.
  induction vars using List.reverseRecOn with
  | nil => exact h
  | append_singleton vars v ih =>
    have before := ih fun w listed => pairs w (List.mem_append_left _ listed)
    rw [Variables.layer_append, Layer.overlay_append, Variables.setting?_append]
    cases key : Variables.key? v.1 with
    | none => exact before
    | some key' =>
      obtain ⟨part, name, plain, plain', rfl⟩ := pairs v (by simp) key' key
      have laid := before.put part name (Variables.value v.2)
      rw [← Layer.entries_putEntry plain plain' (Variables.value_isScalar v.2)] at laid
      have value : (if some (part ++ "." ++ name) = some k.key then some (Variables.value v.2)
          else Variables.setting? vars k.key).getD d =
          if part = k.part ∧ name = k.name then Variables.value v.2
          else (Variables.setting? vars k.key).getD d := by
        simp only [Option.some.injEq, Setting.pair_eq_key_iff plain plain']
        split <;> rfl
      rw [value]
      exact laid

end Layers

/-! ## What is read of the values -/

section Reading

variable {α β : Type} {l : Located}

theorem bind_eq_ok {x : Except SettingsFault α} {f : α → Except SettingsFault β} {b : β} :
    (x >>= f) = .ok b ↔ ∃ a, x = .ok a ∧ f a = .ok b := by
  cases x with
  | error fault =>
    constructor
    · intro h
      cases h
    · rintro ⟨_, h, _⟩
      cases h
  | ok a =>
    constructor
    · exact fun h => ⟨a, rfl, h⟩
    · rintro ⟨_, same, h⟩
      cases same
      exact h

theorem convert_eq_ok {read : Datum → Option α} {otherwise a : α} :
    convert read otherwise (some l) = .ok a ↔ read l.value = some a := by
  simp only [convert]
  split <;> simp [*]

theorem color_eq_ok {otherwise mode : ColorMode} :
    color otherwise (some l) = .ok mode ↔ Setting.colorMode? l.value = some mode := by
  unfold color
  dsimp only
  split
  · next mode' read =>
    have read : Setting.colorMode? l.value = some mode' := read
    simp [read]
  · next read =>
    have read : Setting.colorMode? l.value = none := read
    simp [read]

/-- Faults that name the place of an element do not change what is read. -/
theorem mapM_zipIdx_eq_ok {read : Datum → Option α} {each : Datum × Nat → Except SettingsFault α}
    (alike : ∀ x i a, each (x, i) = .ok a ↔ read x = some a) (xs : List Datum) :
    ∀ {n : Nat} {as : List α}, (xs.zipIdx n).mapM each = .ok as ↔ xs.mapM read = some as := by
  induction xs with
  | nil =>
    intro n as
    rw [List.zipIdx_nil, List.mapM_nil, List.mapM_nil]
    exact ⟨fun h => congrArg some (Except.ok.inj h), fun h => congrArg _ (Option.some.inj h)⟩
  | cons x xs ih =>
    intro n as
    rw [List.zipIdx_cons, List.mapM_cons, List.mapM_cons, bind_eq_ok, Option.bind_eq_bind,
      Option.bind_eq_some_iff]
    refine exists_congr fun a => and_congr (alike x n a) ?_
    rw [bind_eq_ok, Option.bind_eq_bind, Option.bind_eq_some_iff]
    refine exists_congr fun more => and_congr ih ?_
    exact ⟨fun h => congrArg some (Except.ok.inj h), fun h => congrArg _ (Option.some.inj h)⟩

theorem paletteNames_eq_ok {otherwise names : List String} :
    paletteNames otherwise (some l) = .ok names ↔ Setting.texts? l.value = some names := by
  obtain ⟨key, value⟩ := l
  unfold paletteNames Setting.texts?
  cases value with
  | array xs =>
    refine mapM_zipIdx_eq_ok (fun x i a => ?_) xs
    dsimp only
    split <;> simp [*]
  | _ => simp

/-- Three parts are put together if none of them fails. -/
theorem three_eq_ok {γ δ : Type} {x : Except SettingsFault α} {y : Except SettingsFault β}
    {z : Except SettingsFault γ} {f : α → β → γ → δ} {d : δ} :
    (do return f (← x) (← y) (← z)) = .ok d ↔
      ∃ a b c, x = .ok a ∧ y = .ok b ∧ z = .ok c ∧ f a b c = d := by
  simp only [bind_eq_ok]
  constructor
  · rintro ⟨a, hx, b, hy, c, hz, same⟩
    exact ⟨a, b, c, hx, hy, hz, Except.ok.inj same⟩
  · rintro ⟨a, b, c, hx, hy, hz, rfl⟩
    exact ⟨a, hx, b, hy, c, hz, rfl⟩

variable {root : List (String × Datum)} {raw : Setting → Datum}

/-- In a section with a value for a setting, that value is found under its name. -/
theorem section?_of_decides (h : ∀ k, Decides root k (raw k)) (part : String) (names : List String)
    (is : ∃ k : Setting, k.part = part) :
    ∃ find, section? root part names = .ok find ∧
      ∀ k : Setting, k.part = part → find k.name = some ⟨k.key, raw k⟩ := by
  obtain ⟨k, rfl⟩ := is
  obtain ⟨es, there, -⟩ := h k
  refine ⟨_, by rw [section?, there], ?_⟩
  intro k' same
  obtain ⟨es', there', value⟩ := h k'
  rw [same, there] at there'
  cases there'
  rw [value, Setting.key, same]
  rfl

theorem timingOf_eq_ok (h : ∀ k, Decides root k (raw k)) {t : Timing} :
    timingOf root = .ok t ↔ number? (raw .window) = some t.window ∧
      number? (raw .settle) = some t.settle ∧
      number? (raw .queuePerService) = some t.queuePerService := by
  obtain ⟨find, found, values⟩ := section?_of_decides h "engine"
    ["window_ms", "restart_settle_ms", "queue_per_service"] ⟨.window, rfl⟩
  have window : find "window_ms" = _ := values .window rfl
  have settle : find "restart_settle_ms" = _ := values .settle rfl
  have queue : find "queue_per_service" = _ := values .queuePerService rfl
  have parts : timingOf root = (do
      return Timing.mk (← convert number? 100 (find "window_ms"))
        (← convert number? 500 (find "restart_settle_ms"))
        (← convert number? 32 (find "queue_per_service"))) := by
    rw [timingOf, found]
    rfl
  rw [parts, three_eq_ok, window, settle, queue]
  simp only [convert_eq_ok]
  constructor
  · rintro ⟨_, _, _, hw, hs, hq, rfl⟩
    exact ⟨hw, hs, hq⟩
  · rintro ⟨hw, hs, hq⟩
    exact ⟨_, _, _, hw, hs, hq, rfl⟩

theorem appearanceOf_eq_ok (h : ∀ k, Decides root k (raw k)) {a : Appearance} :
    appearanceOf root = .ok a ↔ Setting.colorMode? (raw .color) = some a.color ∧
      text? (raw .separator) = some a.separator ∧
      Setting.texts? (raw .palette) = some a.palette := by
  obtain ⟨find, found, values⟩ := section?_of_decides h "output"
    ["color", "separator", "palette"] ⟨.color, rfl⟩
  have mode : find "color" = _ := values .color rfl
  have separator : find "separator" = _ := values .separator rfl
  have palette : find "palette" = _ := values .palette rfl
  let usual : Appearance := {}
  have parts : appearanceOf root = (do
      return Appearance.mk (← color usual.color (find "color"))
        (← convert text? usual.separator (find "separator"))
        (← paletteNames usual.palette (find "palette"))) := by
    rw [appearanceOf, found]
    rfl
  rw [parts, three_eq_ok, mode, separator, palette]
  simp only [convert_eq_ok, color_eq_ok, paletteNames_eq_ok]
  constructor
  · rintro ⟨_, _, _, hm, hs, hp, rfl⟩
    exact ⟨hm, hs, hp⟩
  · rintro ⟨hm, hs, hp⟩
    exact ⟨_, _, _, hm, hs, hp, rfl⟩

theorem hostOf_eq_ok (h : ∀ k, Decides root k (raw k)) {host : String} :
    hostOf root = .ok host ↔ text? (raw .host) = some host := by
  obtain ⟨find, found, values⟩ := section?_of_decides h "docker" ["host"] ⟨.host, rfl⟩
  let usual : Settings := {}
  have part : hostOf root = convert text? usual.host (find "host") := by
    rw [hostOf, found]
    rfl
  have value : find "host" = _ := values .host rfl
  rw [part, value, convert_eq_ok]

theorem ofTable_eq_ok (h : ∀ k, Decides root k (raw k)) {s : Settings} :
    ofTable root = .ok s ↔ ∀ k : Setting, k.read? (raw k) = some (k.field s) := by
  rw [ofTable, three_eq_ok]
  simp only [timingOf_eq_ok h, appearanceOf_eq_ok h, hostOf_eq_ok h]
  constructor
  · rintro ⟨_, _, _, ⟨hw, hs, hq⟩, ⟨hm, hp, hn⟩, host, rfl⟩ k
    cases k
    · exact hw
    · exact hs
    · exact hq
    · exact hm
    · exact hp
    · exact hn
    · exact host
  · intro each
    exact ⟨s.timing, s.appearance, s.host,
      ⟨each .window, each .settle, each .queuePerService⟩,
      ⟨each .color, each .separator, each .palette⟩, each .host, rfl⟩

end Reading

/-! ## Loading -/

section Loading

variable {files : Files} {vars : Variables} {named : Option String} {file : Layer}

theorem decides_stack (found : fileLayer files vars named = .ok file)
    (regular : Regular file vars) (k : Setting) :
    Decides (Layer.stack [({} : Settings).toTable, file, vars.layer]) k (k.raw file vars) := by
  have plain : ∀ e ∈ ({} : Settings).toTable, KeyPath.isIdentifier e.1 := by decide
  -- Nothing lies below the usual settings, so they are at the bottom as they are.
  have bottom : (Layer.overlay (.table []) ({} : Settings).toTable).entries =
      ({} : Settings).toTable := by
    rw [Layer.entries_overlay plain]
    rfl
  have middle := (decides_usual k).overlay_file k.usual_entries (fileLayer_wellKeyed found) regular
  rw [← bottom, ← Layer.entries_overlay regular.identifiers] at middle
  exact middle.overlay_environment regular

theorem load_eq_ok (found : fileLayer files vars named = .ok file) (regular : Regular file vars)
    {s : Settings} :
    load files vars named = .ok s ↔
      ∀ k : Setting, k.read? (k.raw file vars) = some (k.field s) := by
  -- The file is read, so all that is left of loading is to read the values of the stack.
  rw [← ofTable_eq_ok (decides_stack found regular), load, found]
  exact Iff.rfl

/-- Values that can all be read are the fields of settings. -/
theorem exists_fields {raw : Setting → Datum} (h : ∀ k : Setting, (k.read? (raw k)).isSome) :
    ∃ s : Settings, ∀ k : Setting, k.read? (raw k) = some (k.field s) := by
  obtain ⟨fields, read⟩ := Classical.axiomOfChoice fun k => Option.isSome_iff_exists.1 (h k)
  refine ⟨⟨⟨fields .window, fields .settle, fields .queuePerService⟩,
    ⟨fields .color, fields .separator, fields .palette⟩, fields .host⟩, fun k => ?_⟩
  cases k <;> exact read _

/-- Settings are layered key by key. There are settings if the values that decide them can all be
read, and each field is then what its own value is read as: values that are covered, or that belong
to other keys, do not matter. -/
theorem load_key_by_key (found : fileLayer files vars named = .ok file)
    (regular : Regular file vars) :
    ((∃ s, load files vars named = .ok s) ↔
      ∀ k : Setting, (k.read? (k.raw file vars)).isSome) ∧
    (∀ s, load files vars named = .ok s ↔
      ∀ k : Setting, k.read? (k.raw file vars) = some (k.field s)) ∧
    ∀ {files' : Files} {vars' : Variables} {named' : Option String} {file' : Layer},
      fileLayer files' vars' named' = .ok file' → Regular file' vars' →
      ∀ {s s' : Settings}, load files vars named = .ok s → load files' vars' named' = .ok s' →
      ∀ k : Setting, k.inFile? file = k.inFile? file' →
        vars.setting? k.key = vars'.setting? k.key → k.field s = k.field s' := by
  refine ⟨⟨?_, ?_⟩, fun s => load_eq_ok found regular, ?_⟩
  · rintro ⟨s, loaded⟩ k
    rw [(load_eq_ok found regular).1 loaded k]
    rfl
  · intro readable
    obtain ⟨s, fields⟩ := exists_fields readable
    exact ⟨s, (load_eq_ok found regular).2 fields⟩
  · intro files' vars' named' file' found' regular' s s' loaded loaded' k inFile inVariables
    have raw : k.raw file vars = k.raw file' vars' := by
      rw [Setting.raw, Setting.raw, inFile, inVariables]
    have field := (load_eq_ok found regular).1 loaded k
    have field' := (load_eq_ok found' regular').1 loaded' k
    rw [raw] at field
    exact Option.some.inj (field.symm.trans field')

/-- A file with a window that is no number, and with a palette. -/
def soonFiles : Files := fun path =>
  if path = "c.toml".toList then
    some (Utf8.bytes "[engine]\nwindow_ms = \"soon\"\n[output]\npalette = [\"red\"]")
  else none

/-- An environment that sets the window. -/
def windowOf (milliseconds : String) : Variables := [("LOGWEAVE_ENGINE__WINDOW_MS", milliseconds)]

theorem windowVariable_key? :
    Variables.key? "LOGWEAVE_ENGINE__WINDOW_MS" = some Setting.window.key := by
  decide +kernel

theorem windowOf_regular {milliseconds : String}
    (identifiers : ∀ e ∈ file, KeyPath.isIdentifier e.1)
    (tables : ∀ (k : Setting) (d : Datum), Datum.get? file k.part = some d → d.isTable) :
    Regular file (windowOf milliseconds) where
  identifiers := identifiers
  tables := tables
  pairs := by
    intro v listed key sets
    cases List.mem_singleton.1 listed
    rw [windowVariable_key?] at sets
    cases sets
    exact ⟨"engine", "window_ms", by decide, by decide, rfl⟩

theorem windowOf_setting? (milliseconds : String) (k : Setting) :
    Variables.setting? (windowOf milliseconds) k.key =
      if k = .window then some (Variables.value milliseconds) else none := by
  rw [windowOf, ← List.nil_append [_], Variables.setting?_append, windowVariable_key?]
  cases k <;> rfl

theorem soonFiles_read : ∃ file,
    (∀ vars, fileLayer soonFiles vars (some "c.toml") = .ok file) ∧
    (∀ e ∈ file, KeyPath.isIdentifier e.1) ∧
    (∀ (k : Setting) (d : Datum), Datum.get? file k.part = some d → d.isTable) ∧
    (∀ k : Setting, k ≠ .window → (k.read? ((k.inFile? file).getD k.usual)).isSome) ∧
    Setting.texts? ((Setting.palette.inFile? file).getD Setting.palette.usual) = some ["red"] := by
  have read : (fileLayer soonFiles [] (some "c.toml")).toOption.any (fun file =>
      file.all (KeyPath.isIdentifier ·.1) &&
      ["engine", "output", "docker"].all (fun part =>
        (Datum.get? file part).all Datum.isTable) &&
      [Setting.settle, .queuePerService, .color, .separator, .palette, .host].all (fun k =>
        (k.read? ((k.inFile? file).getD k.usual)).isSome) &&
      decide (Setting.texts? ((Setting.palette.inFile? file).getD Setting.palette.usual) =
        some ["red"])) = true := by
    decide +kernel
  cases parsed : fileLayer soonFiles [] (some "c.toml") with
  | error fault =>
    rw [parsed] at read
    cases read
  | ok file =>
    simp only [parsed, Except.toOption, Option.any_some, Bool.and_eq_true, List.all_eq_true,
      decide_eq_true_eq] at read
    obtain ⟨⟨⟨identifiers, tables⟩, readable⟩, palette⟩ := read
    refine ⟨file, fun vars => parsed, identifiers, fun k d found => ?_, fun k other => ?_, palette⟩
    · have table := tables k.part (by cases k <;> decide)
      rwa [found] at table
    · exact readable k (by cases k <;> first | exact absurd rfl other | decide)

theorem soon_is_overridden :
    ∃ s, load soonFiles (windowOf "250") (some "c.toml") = .ok s ∧ s.timing.window = 250 ∧
      s.appearance.palette = ["red"] ∧
      ∀ s', load soonFiles (windowOf "300") (some "c.toml") = .ok s' →
        s.appearance.palette = s'.appearance.palette := by
  obtain ⟨file, found, identifiers, tables, readable, palette⟩ := soonFiles_read
  have regular (milliseconds : String) : Regular file (windowOf milliseconds) :=
    windowOf_regular identifiers tables
  have number : number? (Variables.value "250") = some 250 := by decide +kernel
  have raw (k : Setting) (other : k ≠ .window) :
      k.raw file (windowOf "250") = (k.inFile? file).getD k.usual := by
    rw [Setting.raw, windowOf_setting?, if_neg other, Option.getD_none]
  have rawWindow : Setting.window.raw file (windowOf "250") = Variables.value "250" := by
    rw [Setting.raw, windowOf_setting?, if_pos rfl, Option.getD_some]
  obtain ⟨loads, fields, frame⟩ := load_key_by_key (found _) (regular "250")
  obtain ⟨s, loaded⟩ := loads.2 fun k => by
    by_cases window : k = .window
    · subst window
      rw [rawWindow]
      exact Option.isSome_iff_exists.2 ⟨_, number⟩
    · rw [raw k window]
      exact readable k window
  have each := (fields s).1 loaded
  refine ⟨s, loaded, ?_, ?_, fun s' loaded' => ?_⟩
  · have window := each .window
    rw [rawWindow] at window
    exact Option.some.inj (window.symm.trans number)
  · have own := each .palette
    rw [raw .palette (by decide)] at own
    exact Option.some.inj (own.symm.trans palette)
  · exact frame (found _) (regular "300") loaded loaded' .palette rfl
      (by rw [windowOf_setting?, windowOf_setting?]; rfl)

end Loading

end Settings

end Chronicle
