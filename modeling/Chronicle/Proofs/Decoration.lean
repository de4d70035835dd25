import Chronicle.Proofs.Appearance
import Chronicle.Proofs.Delivery
/-!
# Colour only decorates

A line has a label in front or it has none, and a palette puts two marks around the label: an escape
sequence that sets the colour of the service and one that takes it back. `Layout.parts` takes a line
apart, and `LineParts.bytes` puts it together again with any marks. The main result is
`Palette.only_decorates`: sessions and runs with a palette are those without it, but for the marks.
-/

namespace Chronicle

/-! ## Marks around labels -/

/-- What stands before and after the label of a service. -/
abbrev Marks := String → String × String

/-- Nothing stands around a label. -/
def Marks.none : Marks := fun _ => ("", "")

/-- The escape sequence of a service's colour, and the one that takes it back. Without a colour
there is neither. -/
def Palette.marks (palette : Palette) : Marks := fun service =>
  match palette.colorOf service with
  | some c => (Layout.style c.foreground, Layout.style "39")
  | none => ("", "")

/-- A line taken apart: its label, if it has one, and what comes behind it. -/
structure LineParts where
  label : Option String
  rest : String

/-- The bytes of a line with such marks around its label. -/
def LineParts.bytes (marks : Marks) (parts : LineParts) : List UInt8 :=
  let label := match parts.label with
    | some service => (marks service).1 ++ service ++ (marks service).2
    | none => ""
  Utf8.bytes (label ++ parts.rest ++ "\n")

namespace Palette

variable {palette : Palette}

theorem marks_of_empty (empty : palette.colors = []) : palette.marks = Marks.none := by
  funext service
  rw [marks, (palette.colorOf_eq_none_iff service).2 empty]
  rfl

/-- In a palette with colours the marks of a service are one of these and a reset. -/
theorem marks_of_colors (colors : palette.colors ≠ []) (service : String) :
    ∃ c ∈ palette.colors,
      palette.marks service = ("\x1b[" ++ c.foreground ++ "m", "\x1b[39m") := by
  cases chosen : palette.colorOf service with
  | none => exact absurd ((palette.colorOf_eq_none_iff service).1 chosen) colors
  | some c =>
    refine ⟨c, List.mem_of_getElem? chosen, ?_⟩
    rw [marks, chosen]
    rfl

end Palette

namespace LineParts

theorem bytes_unlabelled {parts : LineParts} (unlabelled : parts.label = none)
    (marks marks' : Marks) : parts.bytes marks = parts.bytes marks' := by
  rw [bytes, bytes, unlabelled]

/-- Marks make no line shorter. -/
theorem length_bytes_le (parts : LineParts) (marks : Marks) :
    (parts.bytes Marks.none).length ≤ (parts.bytes marks).length := by
  obtain ⟨label, rest⟩ := parts
  cases label with
  | none => exact Nat.le_refl _
  | some service =>
    simp only [bytes, Marks.none, Utf8.bytes, String.toList_append, Utf8.encode_append,
      List.length_append, String.toList_empty, Utf8.encode_nil, List.length_nil]
    omega

end LineParts

/-! ## Lines taken apart -/

namespace Layout

variable {l : Layout} {palette : Palette} {e : Entry}

/-- An entry as a line taken apart. -/
def parts (l : Layout) (e : Entry) : LineParts :=
  match e.wholeLine with
  | some line => ⟨none, line⟩
  | none =>
    if l.labels then ⟨some e.service, " " ++ l.separator ++ " " ++ e.text⟩ else ⟨none, e.text⟩

/-- No palette is set, and colours would be shown. -/
structure IsBare (l : Layout) : Prop where
  palette : l.palette = none
  unmuted : l.muted = false

theorem parts_unlabelled (unlabelled : e.wholeLine ≠ none ∨ l.labels = false) :
    (l.parts e).label = none := by
  unfold parts
  split
  · rfl
  · next noLine =>
    rcases unlabelled with line | hidden
    · exact absurd noLine line
    · simp [hidden]

/-- A line is put together again from its parts, with the marks that are around its label. -/
theorem lineBytes_eq_bytes {marks : Marks}
    (label : l.label e.service =
      (marks e.service).1 ++ e.service ++ (marks e.service).2) :
    l.lineBytes e = (l.parts e).bytes marks := by
  cases whole : e.wholeLine with
  | some text => simp [Layout.lineBytes, line, parts, LineParts.bytes, whole]
  | none =>
    cases labels : l.labels with
    | false => simp [Layout.lineBytes, line, parts, LineParts.bytes, whole, labels]
    | true =>
      simp [Layout.lineBytes, line, parts, LineParts.bytes, whole, labels, label,
        String.append_assoc]

/-- An empty palette chooses no colour, and so it may as well be left out. -/
theorem bind_colorOf (l : Layout) (palette : Palette) (service : String) :
    ((l.withPalette palette).palette.bind fun p => p.colorOf service) =
      palette.colorOf service := by
  unfold withPalette
  cases empty : palette.isEmpty with
  | false => simp
  | true =>
    have none : palette.colorOf service = none :=
      (palette.colorOf_eq_none_iff service).2 (List.isEmpty_iff.1 empty)
    simp [none]

/-- Without a palette nothing stands around the labels. -/
theorem IsBare.lineBytes (bare : l.IsBare) (e : Entry) :
    l.lineBytes e = (l.parts e).bytes Marks.none := by
  apply lineBytes_eq_bytes
  simp [label, bare.palette, Marks.none]

/-- With a palette its marks do, and nothing else is different. -/
theorem IsBare.lineBytes_withPalette (bare : l.IsBare) (palette : Palette) (e : Entry) :
    (l.withPalette palette).lineBytes e = (l.parts e).bytes palette.marks := by
  apply lineBytes_eq_bytes (l := l.withPalette palette)
  rw [label, bind_colorOf, Palette.marks]
  cases palette.colorOf e.service with
  | none => simp
  | some c => simp [paint, withPalette, bare.unmuted]

/-- A line without a label is the same with any palette. -/
theorem IsBare.lineBytes_unlabelled (bare : l.IsBare) (palette : Palette)
    (unlabelled : e.wholeLine ≠ none ∨ l.labels = false) :
    (l.withPalette palette).lineBytes e = l.lineBytes e := by
  rw [bare.lineBytes, bare.lineBytes_withPalette]
  exact LineParts.bytes_unlabelled (parts_unlabelled unlabelled) _ _

theorem IsBare.length_le (bare : l.IsBare) (palette : Palette) (e : Entry) :
    (l.lineBytes e).length ≤ ((l.withPalette palette).lineBytes e).length := by
  rw [bare.lineBytes, bare.lineBytes_withPalette]
  exact LineParts.length_bytes_le _ _

end Layout

/-! ## Printers side by side -/

namespace Printer

/-- Labels in the colours of a palette. -/
def withPalette (p : Printer) (palette : Palette) : Printer :=
  { p with layout := p.layout.withPalette palette }

theorem Fresh.withPalette {p : Printer} (fresh : p.Fresh) (palette : Palette) :
    (p.withPalette palette).Fresh := ⟨fresh.sink, fresh.pending, fresh.buffer, fresh.verdict⟩

theorem dressed_self (p : Printer) : p.dressed p.sink [] p.layout = p := p.dressed_nil p.layout

theorem withPalette_eq (p : Printer) (palette : Palette) :
    p.withPalette palette = p.dressed p.sink [] (p.layout.withPalette palette) :=
  (p.dressed_nil _).symm

/-- Two printers that differ in the palette and in what they have written since their sinks were
`sink`. Both have cut these records into the same windows, up to those in the buffer, and flushed
them at the same times: one with the marks of the palette around the labels, the other without. -/
structure Decorated (sink : Sink) (palette : Palette) (records : List RawRecord)
    (plain painted : Printer) : Prop where
  alike : painted = { plain.withPalette palette with sink := painted.sink }
  shown : ∃ windows : ShownWindows, windows.records ++ plain.buffer = records ∧
    plain.sink =
      sink.showing (fun e => (plain.layout.parts e).bytes Marks.none) plain.follow windows ∧
    painted.sink =
      sink.showing (fun e => (plain.layout.parts e).bytes palette.marks) plain.follow windows

variable {sink : Sink} {palette : Palette} {records : List RawRecord} {plain painted : Printer}

theorem decorated_dressed {l : Layout} (bare : l.IsBare) (palette : Palette) (sink : Sink)
    {p : Printer} {windows : ShownWindows} (kept : windows.records ++ p.buffer = records) :
    Decorated sink palette records (p.dressed sink windows l)
      (p.dressed sink windows (l.withPalette palette)) where
  alike := rfl
  shown := by
    refine ⟨windows, kept, ?_, ?_⟩
    · exact congrArg (sink.showing · p.follow windows) (funext bare.lineBytes)
    · exact congrArg (sink.showing · p.follow windows) (funext (bare.lineBytes_withPalette palette))

theorem Decorated.labels (decorated : Decorated sink palette records plain painted) :
    painted.layout.labels = plain.layout.labels := by
  rw [decorated.alike]
  rfl

/-- Without a colour or without labels the output is the same. -/
theorem Decorated.sink_eq (decorated : Decorated sink palette records plain painted)
    (bland : palette.colors = [] ∨ plain.layout.labels = false) : painted.sink = plain.sink := by
  obtain ⟨windows, -, without, within⟩ := decorated.shown
  have same : (fun e => (plain.layout.parts e).bytes palette.marks) =
      fun e => (plain.layout.parts e).bytes Marks.none := by
    funext e
    rcases bland with empty | hidden
    · rw [Palette.marks_of_empty empty]
    · exact LineParts.bytes_unlabelled (Layout.parts_unlabelled (.inr hidden)) _ _
  rw [within, without, same]

end Printer

/-! ## Sessions and runs side by side -/

open Printer (Decorated readable)

section Sessions

variable {printer : Printer} (fresh : printer.Fresh) (bare : printer.layout.IsBare)
  (palette : Palette)
include fresh bare

/-- A session without a palette is one with any palette. -/
theorem Session.Run.painted (s₀ : Session) {s : Session} {offered taken : List RawRecord}
    (run : Session.Run { s₀ with printer := printer } offered taken s) :
    ∃ q, Session.Run { s₀ with printer := printer.withPalette palette } offered taken
        { s with printer := q } ∧
      Decorated printer.sink palette (taken.filter readable) s.printer q := by
  have dressed : Session.Run { s₀ with
      printer := printer.dressed printer.sink [] printer.layout } offered taken s := by
    rwa [printer.dressed_self]
  obtain ⟨q, windows, shown, kept, runs⟩ := Session.Run.dressed { s₀ with printer := printer }
    fresh.sink fresh.pending fresh.buffer dressed
  refine ⟨q.dressed printer.sink windows (printer.layout.withPalette palette), ?_, ?_⟩
  · rw [printer.withPalette_eq]
    exact runs _
  · rw [shown]
    exact Printer.decorated_dressed bare palette printer.sink kept

/-- A session with a palette is one without it. -/
theorem Session.Run.unpainted (s₀ : Session) {s : Session} {offered taken : List RawRecord}
    (run : Session.Run { s₀ with printer := printer.withPalette palette } offered taken s) :
    ∃ q, Session.Run { s₀ with printer := printer } offered taken { s with printer := q } ∧
      Decorated printer.sink palette (taken.filter readable) q s.printer := by
  rw [printer.withPalette_eq] at run
  obtain ⟨q, windows, shown, kept, runs⟩ := Session.Run.dressed { s₀ with printer := printer }
    fresh.sink fresh.pending fresh.buffer run
  refine ⟨q.dressed printer.sink windows printer.layout, ?_, ?_⟩
  · have plain := runs printer.layout
    rwa [printer.dressed_self] at plain
  · rw [shown]
    exact Printer.decorated_dressed bare palette printer.sink kept

end Sessions

namespace World

variable {σ : Type} {p : Plan σ} {backend : σ} {w : World σ} {printer : Printer}

theorem start_plain (p : Plan σ) (backend : σ) (printer : Printer) :
    { start p backend printer with
      printer := (start p backend printer).printer.dressed printer.sink []
        (start p backend printer).printer.layout } = start p backend printer :=
  congrArg (fun q => { start p backend printer with printer := q }) (Printer.dressed_self _)

theorem start_painted (p : Plan σ) (backend : σ) (printer : Printer) (palette : Palette) :
    { start p backend printer with
      printer := (start p backend printer).printer.dressed printer.sink []
        ((start p backend printer).printer.layout.withPalette palette) } =
      start p backend (printer.withPalette palette) :=
  congrArg (fun q => { start p backend printer with printer := q })
    (Printer.withPalette_eq _ palette).symm

/-- A run of a single service shows no labels. -/
theorem Reachable.unlabelled (fresh : printer.Fresh)
    (reach : Reachable p (World.start p backend printer) w) (single : p.services.length ≤ 1) :
    w.printer.layout.labels = false := by
  obtain ⟨taken, kept⟩ := reach.kept fresh
  have layout : w.printer.layout = (World.start p backend printer).printer.layout :=
    kept.printed.layout
  rw [layout]
  simpa [World.start] using single

variable (fresh : printer.Fresh) (bare : printer.layout.IsBare)

include bare in
theorem bare_start (p : Plan σ) (backend : σ) : (start p backend printer).printer.layout.IsBare :=
  ⟨bare.palette, bare.unmuted⟩

variable (palette : Palette)
include fresh bare

/-- A run without a palette is one with any palette. -/
theorem Reachable.painted (reach : Reachable p (World.start p backend printer) w) :
    ∃ q taken, Reachable p (World.start p backend (printer.withPalette palette))
        { w with printer := q } ∧ w.queued = taken ++ w.queue ∧
      Decorated printer.sink palette (taken.filter readable) w.printer q := by
  have bare' := bare_start bare p backend
  rw [← start_plain] at reach
  obtain ⟨q, windows, taken, shown, queued, kept, runs⟩ :=
    reach.dressed ((World.start p backend printer).printer.layout.withPalette palette) fresh.sink
      fresh.pending (.inr (bare'.length_le palette)) fresh.buffer rfl
  rw [start_painted] at runs
  refine ⟨_, taken, runs, queued, ?_⟩
  rw [shown]
  exact Printer.decorated_dressed bare' palette printer.sink kept

/-- A run with a palette is one without it if no call waits for output. -/
theorem Reachable.unpainted (heedless : p.IsHeedless backend)
    (reach : Reachable p (World.start p backend (printer.withPalette palette)) w) :
    ∃ q taken, Reachable p (World.start p backend printer) { w with printer := q } ∧
      w.queued = taken ++ w.queue ∧
      Decorated printer.sink palette (taken.filter readable) q w.printer := by
  have bare' := bare_start bare p backend
  have free (v : World σ)
      (before : Reachable p (World.start p backend (printer.withPalette palette)) v) :
      ∀ f ∈ v.followers, f.awaitsOutput = false := before.never_awaits heedless
  rw [← start_painted] at reach free
  obtain ⟨q, windows, taken, shown, queued, kept, runs⟩ :=
    reach.dressed (World.start p backend printer).printer.layout fresh.sink fresh.pending
      (.inl free) fresh.buffer rfl
  rw [start_plain] at runs
  refine ⟨_, taken, runs, queued, ?_⟩
  rw [shown]
  exact Printer.decorated_dressed bare' palette printer.sink kept

/-- What the printer of a run with a palette has seen is a session without the palette. -/
theorem Reachable.unpainted_session
    (reach : Reachable p (World.start p backend (printer.withPalette palette)) w) :
    ∃ q taken, Session.Run ((World.start p backend printer).session p) w.queued taken
        { w.session p with printer := q } ∧
      Decorated printer.sink palette (taken.filter readable) q w.printer := by
  have fresh' : (World.start p backend printer).printer.Fresh :=
    ⟨fresh.sink, fresh.pending, fresh.buffer, fresh.verdict⟩
  obtain ⟨taken, run⟩ := reach.session rfl
  obtain ⟨q, plain, decorated⟩ := Session.Run.unpainted fresh' (bare_start bare p backend) palette
    ((World.start p backend printer).session p) run
  exact ⟨q, taken, plain, decorated⟩

end World

/-! ## The main result -/

/-- Colour only decorates, where output does not fail and colours are shown. The marks of a service
depend on its name alone: they are the escape sequence of one of the colours of the palette, and a
reset. A line without a label is the same with the palette. A session without the palette is one
with it, and the other way round: the same records come and are taken at the same times, and the
printers differ in nothing but the palette and the marks around the labels of the lines that they
have written. A run without the palette is one with it in the same way, and the other way round if
no call waits for output. A call that does may return sooner with the palette, but what the printer
sees is a session without the palette all the same. The bytes are the same if the palette has no
colours or the run a single service. -/
theorem Palette.only_decorates {printer : Printer} (fresh : printer.Fresh)
    (bare : printer.layout.IsBare) (palette : Palette) :
    (palette.colors ≠ [] → ∀ service, ∃ c ∈ palette.colors,
      palette.marks service = ("\x1b[" ++ c.foreground ++ "m", "\x1b[39m")) ∧
    (∀ (l : Layout) (e : Entry), l.IsBare → e.wholeLine ≠ none ∨ l.labels = false →
      (l.withPalette palette).lineBytes e = l.lineBytes e) ∧
    (∀ records plain painted, Decorated printer.sink palette records plain painted →
      palette.colors = [] ∨ plain.layout.labels = false → painted.sink = plain.sink) ∧
    (∀ (s₀ s : Session) (offered taken : List RawRecord),
      Session.Run { s₀ with printer := printer } offered taken s →
      ∃ q, Session.Run { s₀ with printer := printer.withPalette palette } offered taken
          { s with printer := q } ∧
        Decorated printer.sink palette (taken.filter readable) s.printer q) ∧
    (∀ (s₀ s : Session) (offered taken : List RawRecord),
      Session.Run { s₀ with printer := printer.withPalette palette } offered taken s →
      ∃ q, Session.Run { s₀ with printer := printer } offered taken { s with printer := q } ∧
        Decorated printer.sink palette (taken.filter readable) q s.printer) ∧
    ∀ (σ : Type) (p : Plan σ) (backend : σ) (w : World σ),
      (World.Reachable p (World.start p backend printer) w →
        ∃ q taken, World.Reachable p (World.start p backend (printer.withPalette palette))
            { w with printer := q } ∧ w.queued = taken ++ w.queue ∧
          Decorated printer.sink palette (taken.filter readable) w.printer q ∧
          (p.services.length ≤ 1 → q.sink = w.printer.sink)) ∧
      (World.Reachable p (World.start p backend (printer.withPalette palette)) w →
        (∃ q taken, Session.Run ((World.start p backend printer).session p) w.queued taken
            { w.session p with printer := q } ∧
          Decorated printer.sink palette (taken.filter readable) q w.printer ∧
          (p.services.length ≤ 1 → w.printer.sink = q.sink)) ∧
        (p.IsHeedless backend →
          ∃ q taken, World.Reachable p (World.start p backend printer) { w with printer := q } ∧
            w.queued = taken ++ w.queue ∧
            Decorated printer.sink palette (taken.filter readable) q w.printer ∧
            (p.services.length ≤ 1 → w.printer.sink = q.sink))) := by
  refine ⟨palette.marks_of_colors, fun _ _ bare' => bare'.lineBytes_unlabelled palette,
    fun _ _ _ decorated => decorated.sink_eq,
    fun s₀ _ _ _ run => run.painted fresh bare palette s₀,
    fun s₀ _ _ _ run => run.unpainted fresh bare palette s₀, ?_⟩
  intro σ p backend w
  constructor
  · intro reach
    obtain ⟨q, taken, painted, queued, decorated⟩ := reach.painted fresh bare palette
    refine ⟨q, taken, painted, queued, decorated, ?_⟩
    intro single
    exact decorated.sink_eq (.inr (reach.unlabelled fresh single))
  · intro reach
    have hidden := reach.unlabelled (fresh.withPalette palette)
    constructor
    · obtain ⟨q, taken, plain, decorated⟩ := reach.unpainted_session fresh bare palette
      refine ⟨q, taken, plain, decorated, ?_⟩
      intro single
      exact decorated.sink_eq (.inr (decorated.labels.symm.trans (hidden single)))
    · intro heedless
      obtain ⟨q, taken, plain, queued, decorated⟩ := reach.unpainted fresh bare palette heedless
      refine ⟨q, taken, plain, queued, decorated, ?_⟩
      intro single
      exact decorated.sink_eq (.inr (decorated.labels.symm.trans (hidden single)))

/-- A line, and the end of another stream with a line that is not complete. -/
def lastWords : List RawRecord :=
  [.data "web" "last" ⟨1, 0⟩, .terminal "db" (some "words") ⟨2, 0⟩]

/-- They are queued when a session is cancelled. -/
def lastWordsQueued : Session where
  printer := { layout := {}, window := 100, follow := true }
  capacity := 8
  queue := lastWords
  cancelled := true

/-- The printer when they are written. -/
def lastWordsPrinted : Printer :=
  { lastWordsQueued.printer with
    sink := { flushed := [(0, lastWordsQueued.printer.windowBytes lastWords)] }
    warnings := 1
    verdict := some .finished }

theorem lastWords_run : Session.Run lastWordsQueued lastWords lastWords
    { lastWordsQueued with printer := lastWordsPrinted, queue := [] } := by
  have flushed : ({ lastWordsQueued.printer with buffer := lastWords } : Printer).flush 0 = _ :=
    Printer.flush_eq ⟨rfl, rfl⟩ rfl (List.cons_ne_nil _ _) 0
  have printed : lastWordsQueued.printer.handle 0 (.cancelled lastWords) = lastWordsPrinted :=
    congrArg (·.conclude .finished) flushed
  have begun : Session.Run lastWordsQueued lastWords [] lastWordsQueued := .start
  have run := begun.works rfl (Printer.next_cancelled _ _ _ _)
  rw [← printed]
  exact run

/-- The run of two services with colours. -/
def pairInColor : World Playlist :=
  (World.start World.pair World.pairList (World.slow.withPalette Palette.default)).runFor
    World.pair none 100000 31

theorem pair_heedless : World.pair.IsHeedless World.pairList := by
  refine ⟨Playlist.IsHeedless, Playlist.backend_heedless, ?_, ?_⟩
  · simp only [World.pairList, List.forall_mem_cons, List.not_mem_nil, false_imp_iff, implies_true,
      and_true]
    refine ⟨⟨?_, ?_⟩, ?_⟩ <;>
      exact Opening.heedless_of_script (List.forall_mem_nil _)
        (by simp [Script.IsHeedless, Call.IsHeedless, Delay.awaitsOutput])
  · simp [World.pairList, Call.IsHeedless]

theorem printed_in_color :
    (∃ q,
      Session.Run
        { lastWordsQueued with printer := lastWordsQueued.printer.withPalette Palette.default }
        lastWords lastWords { lastWordsQueued with printer := q, queue := [] } ∧
      q.verdict = some .finished ∧
      q.sink.written =
        Utf8.bytes ("\x1b[38;5;3mweb\x1b[39m › last\n" ++ "\x1b[38;5;3mdb\x1b[39m › words\n" ++
          "The db container exited.\n")) ∧
    ∃ q taken, World.Reachable World.pair (World.start World.pair World.pairList World.slow)
        { pairInColor with printer := q } ∧ pairInColor.queued = taken ++ pairInColor.queue ∧
      Decorated World.slow.sink Palette.default (taken.filter readable) q pairInColor.printer := by
  constructor
  · have fresh : lastWordsQueued.printer.Fresh := ⟨⟨rfl, rfl⟩, rfl, rfl, rfl⟩
    obtain ⟨-, -, -, sessions, -⟩ := Palette.only_decorates fresh ⟨rfl, rfl⟩ Palette.default
    obtain ⟨q, painted, alike, windows, kept, without, within⟩ :=
      sessions lastWordsQueued _ _ _ lastWords_run
    refine ⟨q, painted, ?_, ?_⟩
    · rw [alike]
      rfl
    · -- One flush is one window, and it holds both records.
      obtain ⟨records, rfl⟩ : ∃ records, windows = [(0, records)] := by
        have flushed := congrArg (fun s => s.flushed.map (·.1)) without.symm
        simpa [Sink.showing, lastWordsPrinted, lastWordsQueued, Function.comp_def] using flushed
      obtain rfl : records = lastWords := by
        have all : lastWords.filter readable = lastWords := rfl
        simpa [ShownWindows.records, lastWordsPrinted, lastWordsQueued, all] using kept
      have sorted : Window.resolve lastWords true =
          [{ service := "web", text := "last", time := ⟨1, 0⟩ },
            { service := "db", text := "words", time := ⟨2, 0⟩ },
            Entry.exitNotice "db" ⟨2, 0⟩] :=
        List.mergeSort_of_pairwise (by decide +kernel)
      have written : q.sink.written = (Window.resolve lastWords true).flatMap
          fun e => (lastWordsQueued.printer.layout.parts e).bytes Palette.default.marks := by
        rw [within]
        simp [Sink.written, Sink.showing, lastWordsPrinted, lastWordsQueued]
      rw [written, sorted]
      decide +kernel
  · obtain ⟨-, -, -, -, -, runs⟩ :=
      Palette.only_decorates World.slow_fresh ⟨rfl, rfl⟩ Palette.default
    have reach : World.Reachable World.pair
        (World.start World.pair World.pairList (World.slow.withPalette Palette.default))
        pairInColor := World.reachable_runFor 31 _
    obtain ⟨q, taken, plain, queued, decorated, -⟩ :=
      ((runs _ World.pair World.pairList pairInColor).2 reach).2 pair_heedless
    exact ⟨q, taken, plain, queued, decorated⟩

end Chronicle
