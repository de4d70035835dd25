import Chronicle.Printing.Printer
/-!
# What is printed

For a sink that never fails, `Printer.Printed` keeps account of a printer at work: which records it
has been given since some earlier state, how they were cut into windows, and which of them still
wait in the buffer. Every event adds the readable records it takes from the queue to the account,
and an event that ends the run leaves the buffer empty.
-/

namespace Chronicle

/-! ## Sinks that never fail -/

namespace Sink

/-- Everything is accepted, and flushing works. -/
structure NeverFails (s : Sink) : Prop where
  room : s.room = none
  flushes : s.failsFlush = false

/-- What each flush let through. -/
def texts (s : Sink) : List (List UInt8) := s.flushed.map (·.2)

theorem written_eq (s : Sink) : s.written = s.texts.flatten ++ s.pending := rfl

theorem NeverFails.writeAll {s : Sink} (h : s.NeverFails) (pieces : List (List UInt8)) :
    s.writeAll pieces = ({ s with pending := s.pending ++ pieces.flatten }, none) := by
  induction pieces generalizing s with
  | nil => simp [Sink.writeAll]
  | cons bs rest ih =>
    have written : s.write bs = ({ s with pending := s.pending ++ bs }, none) := by
      simp [Sink.write, h.room]
    rw [Sink.writeAll, written]
    simp only
    rw [ih (s := { s with pending := s.pending ++ bs }) ⟨h.room, h.flushes⟩]
    simp

theorem NeverFails.writeAndFlush {s : Sink} (h : s.NeverFails) (now : Nat)
    (pieces : List (List UInt8)) :
    s.writeAndFlush now pieces =
      ({ s with flushed := s.flushed ++ [(now, s.pending ++ pieces.flatten)], pending := [] },
        none) := by
  simp [Sink.writeAndFlush, h.writeAll, Sink.flush, h.flushes]

end Sink

/-! ## Events and the records they take -/

namespace Printer

/-- The records an event takes from the queue. -/
def Event.taken : Event → List RawRecord
  | .cancelled queued => queued
  | .received r => [r]
  | .windowOver | .closed => []

/-- A record that has something to print. -/
def readable (r : RawRecord) : Bool := !r.isFailure

theorem filter_readable {records : List RawRecord} (h : ∀ r ∈ records, r.isFailure = false) :
    records.filter readable = records := by
  rw [List.filter_eq_self]
  intro r mem
  simp [readable, h r mem]

/-- How a run that took these records ends: with the first failure among them, if there is one. -/
inductive Ends (taken : List RawRecord) : Verdict → Prop where
  | finished (readable : ∀ r ∈ taken, r.isFailure = false) : Ends taken .finished
  | failed {before after : List RawRecord} {service : String} {fault : Fault}
      (split : taken = before ++ .failure service fault :: after)
      (first : ∀ r ∈ before, r.isFailure = false) : Ends taken (.readFailed service fault)

theorem firstFailure?_eq_none {records : List RawRecord} (h : firstFailure? records = none) :
    ∀ r ∈ records, r.isFailure = false := by
  fun_induction firstFailure? records with
  | case1 => simp
  | case2 => simp at h
  | case3 r rest notFailure ih =>
    have : r.isFailure = false := by
      cases r <;> simp_all [RawRecord.isFailure]
    simpa [this] using ih h

theorem firstFailure?_eq_some {records : List RawRecord} {service : String} {fault : Fault}
    (h : firstFailure? records = some (service, fault)) :
    ∃ before after, records = before ++ .failure service fault :: after ∧
      ∀ r ∈ before, r.isFailure = false := by
  fun_induction firstFailure? records with
  | case1 => simp at h
  | case2 s f rest =>
    simp only [Option.some.injEq, Prod.mk.injEq] at h
    obtain ⟨rfl, rfl⟩ := h
    exact ⟨[], rest, rfl, by simp⟩
  | case3 r rest notFailure ih =>
    obtain ⟨before, after, rfl, first⟩ := ih h
    have : r.isFailure = false := by
      cases r <;> simp_all [RawRecord.isFailure]
    exact ⟨r :: before, after, rfl, by simpa [this] using first⟩

/-- Records without a failure in front do not change how a run ends. -/
theorem Ends.append {records more : List RawRecord} {v : Verdict}
    (readable : ∀ r ∈ records, r.isFailure = false) (h : Ends more v) :
    Ends (records ++ more) v := by
  cases h with
  | finished rest =>
    refine .finished ?_
    intro r hr
    rcases List.mem_append.1 hr with hr | hr
    · exact readable r hr
    · exact rest r hr
  | @failed before after service fault split first =>
    have cut : records ++ more = (records ++ before) ++ .failure service fault :: after := by
      simp [split]
    refine .failed cut ?_
    intro r hr
    rcases List.mem_append.1 hr with hr | hr
    · exact readable r hr
    · exact first r hr

/-! ## The account of a printer -/

/-- The bytes of a window: a line for each of its entries, in order of time. -/
def windowBytes (p : Printer) (records : List RawRecord) : List UInt8 :=
  (Window.resolve records p.follow).flatMap p.layout.lineBytes

theorem windows_bytes (p : Printer) (windows : List (List RawRecord)) :
    (windows.map p.windowBytes).flatten =
      (windows.flatMap (Window.resolve · p.follow)).flatMap p.layout.lineBytes := by
  rw [List.flatMap_assoc, ← List.flatMap_def]
  rfl

/-- Cutting records into windows and ordering each keeps all entries. -/
theorem windows_perm (follow : Bool) (windows : List (List RawRecord)) :
    (windows.flatMap (Window.resolve · follow)).Perm
      (windows.flatten.flatMap (Window.entriesOf follow)) := by
  induction windows with
  | nil => exact .refl _
  | cons window rest ih =>
    rw [List.flatMap_cons, List.flatten_cons, List.flatMap_append]
    exact (List.mergeSort_perm _ _).append ih

/-- The bytes hold the line of each entry that the records have to show. -/
def Shows (p : Printer) (records : List RawRecord) (bytes : List UInt8) : Prop :=
  ∀ e ∈ Window.entries p.follow records, p.layout.lineBytes e <:+: bytes

/-- Windows show all that is in them. -/
theorem shows_windows (p : Printer) (windows : List (List RawRecord)) :
    p.Shows windows.flatten (windows.map p.windowBytes).flatten := by
  intro e mem
  have resolved : e ∈ windows.flatMap (Window.resolve · p.follow) :=
    (windows_perm p.follow windows).mem_iff.2 mem
  rw [windows_bytes]
  exact List.infix_of_mem_flatten (List.mem_map_of_mem resolved)

theorem Shows.of_subset {p : Printer} {records more : List RawRecord} {bytes : List UInt8}
    (shows : p.Shows more bytes) (subset : records ⊆ more) : p.Shows records bytes := by
  intro e mem
  obtain ⟨r, listed, entry⟩ := List.mem_flatMap.1 mem
  exact shows e (List.mem_flatMap.2 ⟨r, subset listed, entry⟩)

theorem Shows.append_left {p : Printer} {records : List RawRecord} {bytes : List UInt8}
    (shows : p.Shows records bytes) (before : List UInt8) : p.Shows records (before ++ bytes) :=
  fun e mem => (shows e mem).trans (List.suffix_append before bytes).isInfix

/-- Failures have nothing to show. -/
theorem Shows.of_readable {p : Printer} {records : List RawRecord} {bytes : List UInt8}
    (shows : p.Shows (records.filter readable) bytes) : p.Shows records bytes := by
  intro e mem
  obtain ⟨r, listed, entry⟩ := List.mem_flatMap.1 mem
  have legible : readable r = true := by
    cases r with
    | failure service fault => simp [Window.entriesOf] at entry
    | data | terminal => rfl
  exact shows e (List.mem_flatMap.2 ⟨r, List.mem_filter.2 ⟨listed, legible⟩, entry⟩)

/-- Since `p₀` the printer was given these records: they were printed window by window, and the last
of them wait in the buffer. -/
structure Printed (p₀ p : Printer) (records : List RawRecord) : Prop where
  sink : p.sink.NeverFails
  pending : p.sink.pending = []
  layout : p.layout = p₀.layout
  follow : p.follow = p₀.follow
  windows : ∃ blocks : List (List RawRecord), (∀ block ∈ blocks, block ≠ []) ∧
    blocks.flatten ++ p.buffer = records ∧
    p.sink.texts = p₀.sink.texts ++ blocks.map p₀.windowBytes

/-- A printer about to start, on a sink that never fails. -/
structure Fresh (p : Printer) : Prop where
  sink : p.sink.NeverFails
  pending : p.sink.pending = []
  buffer : p.buffer = []
  verdict : p.verdict = none

theorem Fresh.printed {p : Printer} (h : p.Fresh) : Printed p p [] where
  sink := h.sink
  pending := h.pending
  layout := rfl
  follow := rfl
  windows := ⟨[], by simp, by simp [h.buffer], by simp⟩

theorem flush_eq {p : Printer} (sink : p.sink.NeverFails) (pending : p.sink.pending = [])
    (filled : p.buffer ≠ []) (now : Nat) :
    p.flush now =
      { p with
        sink := { p.sink with flushed := p.sink.flushed ++ [(now, p.windowBytes p.buffer)] }
        buffer := []
        warnings := p.warnings + p.buffer.countP Window.isUnstamped
        verdict := none } := by
  simp [flush, filled, printWindow, sink.writeAndFlush, pending, windowBytes, List.flatMap]

theorem flush_verdict {p : Printer} (sink : p.sink.NeverFails) (pending : p.sink.pending = [])
    (going : p.verdict = none) (now : Nat) : (p.flush now).verdict = none := by
  by_cases empty : p.buffer = []
  · simp [flush, empty, going]
  · rw [flush_eq sink pending empty]

theorem flush_buffer {p : Printer} (now : Nat) : (p.flush now).buffer = [] := by
  by_cases empty : p.buffer = []
  · simp [flush, empty]
  · simp [flush, empty]

theorem flush_deadline {p : Printer} (now : Nat) : (p.flush now).deadline = p.deadline := by
  by_cases empty : p.buffer = [] <;> simp [flush, empty]

/-- A printer that concludes is done. -/
theorem conclude_isSome (p : Printer) (v : Verdict) : (p.conclude v).verdict.isSome = true := by
  simp [conclude]

/-! ## What an event does -/

/-- How an event ends the run, if it does and the output does not fail. -/
def Event.verdict? : Event → Option Verdict
  | .windowOver => none
  | .received (.failure service fault) => some (.readFailed service fault)
  | .received _ => none
  | .closed => some .finished
  | .cancelled queued => some (match firstFailure? queued with
    | some (service, fault) => .readFailed service fault
    | none => .finished)

/-- The printer when an event has ended the window, with all that belongs to the window. -/
def gather (p : Printer) (event : Event) : Printer :=
  { p with
    buffer := p.buffer ++ event.taken.filter readable
    deadline := match event with
      | .windowOver => none
      | _ => p.deadline }

/-- The printer when the window is written, with the verdict of the event unless output has
failed. -/
def endWindow (p : Printer) (now : Nat) (event : Event) : Printer :=
  { (p.gather event).flush now with
    verdict := ((p.gather event).flush now).verdict.or event.verdict? }

theorem endWindow_buffer (p : Printer) (now : Nat) (event : Event) :
    (p.endWindow now event).buffer = [] := flush_buffer now

/-- An event adds a record to the window, or it ends the window. -/
theorem handle_cases (p : Printer) (now : Nat) (event : Event) :
    (∃ r, r.isFailure = false ∧ event = .received r ∧ p.handle now event = p.take now r) ∨
      ((∀ r, event = .received r → r.isFailure = true) ∧
        p.handle now event = p.endWindow now event) := by
  cases event with
  | windowOver =>
    exact .inr ⟨by simp, by simp [handle, endWindow, gather, Event.taken, Event.verdict?]⟩
  | closed =>
    exact .inr ⟨by simp, by simp [handle, endWindow, conclude, gather, Event.taken, Event.verdict?]⟩
  | cancelled queued => exact .inr ⟨by simp, rfl⟩
  | received r =>
    cases r with
    | failure service fault =>
      exact .inr ⟨by simp [RawRecord.isFailure], by
        simp [handle, endWindow, conclude, gather, Event.taken, Event.verdict?, readable,
          RawRecord.isFailure]⟩
    | data | terminal => exact .inl ⟨_, rfl, rfl, rfl⟩

/-- An event that ends the window but not the run is that the window is over. -/
theorem eq_windowOver {event : Event} (plain : ∀ r, event = .received r → r.isFailure = true)
    (goesOn : event.verdict? = none) : event = .windowOver := by
  cases event with
  | windowOver => rfl
  | closed | cancelled => cases goesOn
  | received r =>
    have failure := plain r rfl
    cases r with
    | failure => cases goesOn
    | data | terminal => cases failure

/-- The verdict of an event is about the records it takes. -/
theorem ends_of_verdict? {event : Event} {v : Verdict} (h : event.verdict? = some v) :
    Ends event.taken v := by
  cases event with
  | windowOver => cases h
  | closed =>
    cases h
    exact .finished (by simp [Event.taken])
  | received r =>
    cases r with
    | failure service fault =>
      cases h
      exact .failed (List.nil_append _).symm (by simp)
    | data | terminal => cases h
  | cancelled queued =>
    cases h
    cases first : firstFailure? queued with
    | none => exact .finished (firstFailure?_eq_none first)
    | some found =>
      obtain ⟨before, after, split, noneBefore⟩ := firstFailure?_eq_some first
      exact .failed split noneBefore

namespace Printed
variable {p₀ p : Printer} {records : List RawRecord}

theorem flush (h : Printed p₀ p records) (now : Nat) : Printed p₀ (p.flush now) records := by
  by_cases empty : p.buffer = []
  · simpa [Printer.flush, empty] using h
  · obtain ⟨blocks, nonempty, split, texts⟩ := h.windows
    have bytes : p.windowBytes p.buffer = p₀.windowBytes p.buffer := by
      simp [windowBytes, h.layout, h.follow]
    -- The buffer becomes one more window.
    rw [flush_eq h.sink h.pending empty]
    refine ⟨⟨h.sink.room, h.sink.flushes⟩, h.pending, h.layout, h.follow,
      blocks ++ [p.buffer], ?_, by simpa using split, ?_⟩
    · intro block mem
      rcases List.mem_append.1 mem with mem | mem
      · exact nonempty block mem
      · rwa [List.mem_singleton.1 mem]
    · simp only [Sink.texts, List.map_append, List.map_cons, List.map_nil] at texts ⊢
      rw [texts, bytes, List.append_assoc]

theorem buffer (h : Printed p₀ p records) (more : List RawRecord) :
    Printed p₀ { p with buffer := p.buffer ++ more } (records ++ more) := by
  obtain ⟨blocks, nonempty, split, texts⟩ := h.windows
  exact ⟨h.sink, h.pending, h.layout, h.follow, blocks, nonempty, by simp [← split], texts⟩

/-- Only the sink, the buffer and how lines look matter to the account. -/
theorem congr {q : Printer} (h : Printed p₀ p records) (sink : q.sink = p.sink)
    (buffer : q.buffer = p.buffer) (layout : q.layout = p.layout) (follow : q.follow = p.follow) :
    Printed p₀ q records :=
  ⟨sink ▸ h.sink, sink ▸ h.pending, layout.trans h.layout, follow.trans h.follow,
    by simpa only [sink, buffer] using h.windows⟩

/-- Every event adds the readable records it takes to the account. -/
theorem handle (h : Printed p₀ p records) (now : Nat) (event : Event) :
    Printed p₀ (p.handle now event) (records ++ event.taken.filter readable) := by
  rcases handle_cases p now event with ⟨r, notFailure, rfl, handled⟩ | ⟨-, handled⟩
  · have one : [r].filter readable = [r] := filter_readable (by simpa using notFailure)
    rw [handled, Event.taken, one]
    exact (h.buffer [r]).congr rfl rfl rfl rfl
  · rw [handled]
    exact (((h.buffer _).congr (q := p.gather event) rfl rfl rfl rfl).flush now).congr
      rfl rfl rfl rfl

/-- The verdict that an event leads to, if any: then all is printed. -/
theorem handle_verdict (h : Printed p₀ p records) (going : p.verdict = none) (now : Nat)
    (event : Event) :
    ((p.handle now event).verdict = none ∧ ∀ r ∈ event.taken, r.isFailure = false) ∨
      ∃ v, (p.handle now event).verdict = some v ∧ Ends event.taken v ∧
        (p.handle now event).buffer = [] := by
  rcases handle_cases p now event with ⟨r, notFailure, rfl, handled⟩ | ⟨plain, handled⟩
  · exact .inl ⟨by rw [handled]; exact going, by simpa [Event.taken] using notFailure⟩
  · have flushed : ((p.gather event).flush now).verdict = none :=
      flush_verdict (p := p.gather event) h.sink h.pending going now
    have verdict : (p.endWindow now event).verdict = event.verdict? := by
      simp [endWindow, flushed]
    rw [handled, verdict]
    cases goesOn : event.verdict? with
    | none =>
      obtain rfl := eq_windowOver plain goesOn
      exact .inl ⟨rfl, by simp [Event.taken]⟩
    | some v => exact .inr ⟨v, rfl, ends_of_verdict? goesOn, endWindow_buffer p now event⟩

end Printed

/-! ## The event that is seen -/

/-- Cancellation is seen before anything else. -/
theorem next_cancelled (p : Printer) (now : Nat) (queue : List RawRecord) (closed : Bool) :
    p.next now true queue closed = some (.cancelled queue) := by
  simp [next]

theorem next_windowOver {p : Printer} {now : Nat} (due : p.deadline.any (· ≤ now) = true)
    (queue : List RawRecord) (closed : Bool) :
    p.next now false queue closed = some .windowOver := by
  simp [next, due]

theorem next_received {p : Printer} {now : Nat} (early : p.deadline.any (· ≤ now) = false)
    (r : RawRecord) (rest : List RawRecord) (closed : Bool) :
    p.next now false (r :: rest) closed = some (.received r) := by
  simp [next, early]

/-- What a printer at work sees, and when. -/
theorem next_cases {p : Printer} {now : Nat} {cancelled closed : Bool} {queue : List RawRecord}
    {event : Event} (h : p.next now cancelled queue closed = some event) :
    (cancelled = true ∧ event = .cancelled queue) ∨
      (cancelled = false ∧ p.deadline.any (· ≤ now) = true ∧ event = .windowOver) ∨
      (cancelled = false ∧ ∃ r, queue.head? = some r ∧ event = .received r) ∨
      (cancelled = false ∧ queue = [] ∧ closed = true ∧ event = .closed) := by
  unfold next at h
  split at h
  · exact .inl ⟨‹_›, by simpa using h.symm⟩
  · have calm : cancelled = false := by simpa using ‹¬ cancelled = true›
    split at h
    · exact .inr (.inl ⟨calm, ‹_›, by simpa using h.symm⟩)
    · cases queue with
      | cons r rest => exact .inr (.inr (.inl ⟨calm, r, rfl, by simpa using h.symm⟩))
      | nil =>
        simp only at h
        split at h
        · exact .inr (.inr (.inr ⟨calm, rfl, ‹_›, by simpa using h.symm⟩))
        · cases h

/-- A record is only taken before the window is over. -/
theorem early_of_received {p : Printer} {now : Nat} {cancelled closed : Bool}
    {queue : List RawRecord} {r : RawRecord}
    (h : p.next now cancelled queue closed = some (.received r)) : ∀ d ∈ p.deadline, now < d := by
  unfold next at h
  split at h
  · cases h
  · split at h
    · cases h
    · intro d scheduled
      simpa [Option.mem_def.1 scheduled] using ‹¬ p.deadline.any (· ≤ now) = true›

/-- An event takes its records from the head of the queue. -/
theorem taken_append_leaves {p : Printer} {now : Nat} {cancelled closed : Bool}
    {queue : List RawRecord} {event : Event} (h : p.next now cancelled queue closed = some event) :
    event.taken ++ event.leaves queue = queue := by
  rcases next_cases h with ⟨-, rfl⟩ | ⟨-, -, rfl⟩ | ⟨-, r, head, rfl⟩ | ⟨-, rfl, -, rfl⟩
  · simp [Event.taken, Event.leaves]
  · simp [Event.taken, Event.leaves]
  · cases queue with
    | nil => simp at head
    | cons a rest =>
      obtain rfl : a = r := by simpa using head
      simp [Event.taken, Event.leaves]
  · simp [Event.taken, Event.leaves]

end Printer

end Chronicle
