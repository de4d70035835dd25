import Chronicle.Proofs.Courses
/-!
# Deadlines of windows

A printer sets a deadline with the first record of a window and writes the window when it has
passed. `Printer.Timed` follows a printer through time and keeps account of when it received each
record and when it wrote each window. The main result is `Printer.Timed.flushes_in_time`: the
deadline is that of the oldest record in the window, no record waits for longer than a window, and
records that are a window apart are never written together, unless the run is cancelled.
-/

namespace Chronicle

namespace Printer

/-- A record and when the printer took it from the queue. -/
structure Receipt where
  record : RawRecord
  time : Nat

/-- A window that was written, and when. -/
structure Writing where
  window : List Receipt
  time : Nat
  /-- It was written because the run was cancelled. -/
  atCancel : Bool

variable {p₀ p : Printer} {lag now : Nat} {held : List Receipt} {written : List Writing}

/-- What belongs to the window when an event is seen: the records held so far, and those that the
event brings. -/
def gathered (held : List Receipt) (now : Nat) (event : Event) : List Receipt :=
  held ++ (event.taken.filter readable).map (⟨·, now⟩)

/-- The run is cancelled. -/
def Event.isCancelled : Event → Bool
  | .cancelled _ => true
  | _ => false

/-- What is held after an event: nothing, if the event has emptied the window. -/
def heldAfter (p : Printer) (held : List Receipt) (now : Nat) (event : Event) : List Receipt :=
  if (p.handle now event).buffer = [] then [] else gathered held now event

/-- The window that an event makes the printer write. -/
def writing? (p : Printer) (held : List Receipt) (now : Nat) (event : Event) : Option Writing :=
  if gathered held now event ≠ [] ∧ (p.handle now event).buffer = [] then
    some ⟨gathered held now event, now, event.isCancelled⟩
  else none

/-- Writing a window leaves what the printer was set up with. -/
theorem flush_settings (p : Printer) (now : Nat) :
    (p.flush now).window = p.window ∧ (p.flush now).layout = p.layout ∧
      (p.flush now).follow = p.follow := by
  by_cases empty : p.buffer = [] <;> simp [flush, empty]

/-- A printer in the course of time, with the records of its window and the windows it has written.
Each event is what the printer sees first, whatever is queued and whether or not the run is
cancelled. While the printer is at work, time passes at most `lag` beyond a deadline; if `lag` is 0
the printer is woken at each deadline. -/
inductive Timed (p₀ : Printer) (lag : Nat) :
    Nat → List Receipt → List Writing → Printer → Prop where
  | start (now : Nat) : Timed p₀ lag now [] [] p₀
  | waits {now : Nat} {held : List Receipt} {written : List Writing} {p : Printer}
      (before : Timed p₀ lag now held written p) (ms : Nat)
      (woken : p.verdict = none → ∀ d ∈ p.deadline, now + ms ≤ d + lag) :
      Timed p₀ lag (now + ms) held written p
  | sees {now : Nat} {held : List Receipt} {written : List Writing} {p : Printer}
      {cancelled closed : Bool} {queue : List RawRecord} {event : Event}
      (before : Timed p₀ lag now held written p) (going : p.verdict = none)
      (sees : p.next now cancelled queue closed = some event) :
      Timed p₀ lag now (p.heldAfter held now event)
        (written ++ (p.writing? held now event).toList) (p.handle now event)

/-- A printer that has not received anything. -/
structure Unused (p : Printer) : Prop where
  buffer : p.buffer = []
  deadline : p.deadline = none

/-- The sink after a window has been written. -/
def put (p : Printer) (sink : Sink) (w : Writing) : Sink :=
  (sink.writeAndFlush w.time
    ((Window.resolve (w.window.map (·.record)) p.follow).map p.layout.lineBytes)).1

/-- Records in the order in which they were received, all within less than a window. -/
def Close (window : Nat) (held : List Receipt) : Prop :=
  held.Pairwise fun a b => a.time ≤ b.time ∧ b.time < a.time + window

/-- A window holds no failure, and none of its records waited for longer than a window. Records a
window apart are only in the last window of a run that is cancelled. -/
structure Timely (window lag : Nat) (w : Writing) : Prop where
  readable : ∀ r ∈ w.window, r.record.isFailure = false
  prompt : ∀ r ∈ w.window, r.time ≤ w.time ∧ w.time ≤ r.time + window + lag
  close : w.atCancel = false → Close window w.window

/-- What holds of a printer in the course of time. -/
structure Punctual (p₀ : Printer) (lag now : Nat) (held : List Receipt) (written : List Writing)
    (p : Printer) : Prop where
  window : p.window = p₀.window
  layout : p.layout = p₀.layout
  follow : p.follow = p₀.follow
  sink : p.sink = written.foldl p₀.put p₀.sink
  records : held.map (·.record) = p.buffer
  readable : ∀ r ∈ held, r.record.isFailure = false
  past : ∀ r ∈ held, r.time ≤ now
  close : Close p₀.window held
  deadline : p.verdict = none → p.deadline = held.head?.map (·.time + p₀.window)
  woken : p.verdict = none → ∀ d ∈ p.deadline, now ≤ d + lag
  timely : ∀ w ∈ written, Timely p₀.window lag w

namespace Punctual

theorem start (unused : p₀.Unused) (now : Nat) : Punctual p₀ lag now [] [] p₀ where
  window := rfl
  layout := rfl
  follow := rfl
  sink := rfl
  records := by simp [unused.buffer]
  readable := by simp
  past := by simp
  close := .nil
  deadline _ := by simp [unused.deadline]
  woken _ := by simp [unused.deadline]
  timely := by simp

theorem waits (h : Punctual p₀ lag now held written p) (ms : Nat)
    (woken : p.verdict = none → ∀ d ∈ p.deadline, now + ms ≤ d + lag) :
    Punctual p₀ lag (now + ms) held written p :=
  { h with
    past := fun r mem => Nat.le_trans (h.past r mem) (Nat.le_add_right now ms)
    woken := woken }

/-- The deadline is that of the oldest record, so no record waits beyond it. -/
theorem due (h : Punctual p₀ lag now held written p) (going : p.verdict = none) {r : Receipt}
    (mem : r ∈ held) : ∃ d ∈ p.deadline, d ≤ r.time + p₀.window := by
  cases held with
  | nil => cases mem
  | cons oldest rest =>
    refine ⟨oldest.time + p₀.window, h.deadline going, ?_⟩
    rcases List.mem_cons.1 mem with rfl | later
    · exact Nat.le_refl _
    · exact Nat.add_le_add_right (List.rel_of_pairwise_cons h.close later).1 _

/-- No record is held for longer than a window, other than for late wakings. -/
theorem prompt (h : Punctual p₀ lag now held written p) (going : p.verdict = none) {r : Receipt}
    (mem : r ∈ held) : now ≤ r.time + p₀.window + lag := by
  obtain ⟨d, scheduled, least⟩ := h.due going mem
  exact Nat.le_trans (h.woken going d scheduled) (Nat.add_le_add_right least lag)

/-- A record joins the window. -/
theorem takes (h : Punctual p₀ lag now held written p) (going : p.verdict = none) {r : RawRecord}
    (notFailure : r.isFailure = false) (early : ∀ d ∈ p.deadline, now < d) :
    Punctual p₀ lag now (held ++ [⟨r, now⟩]) written (p.take now r) where
  window := h.window
  layout := h.layout
  follow := h.follow
  sink := h.sink
  records := by simp [take, h.records]
  readable := List.forall_mem_append.2 ⟨h.readable, by simpa using notFailure⟩
  past := List.forall_mem_append.2 ⟨h.past, by simp⟩
  close := by
    refine List.pairwise_append.2 ⟨h.close, List.pairwise_singleton _ _, ?_⟩
    intro a mem b last
    obtain rfl := List.mem_singleton.1 last
    obtain ⟨d, scheduled, least⟩ := h.due going mem
    exact ⟨h.past a mem, Nat.lt_of_lt_of_le (early d scheduled) least⟩
  deadline _ := by
    have scheduled := h.deadline going
    cases held with
    | nil => simp_all [take, h.window]
    | cons oldest rest => simp_all [take]
  woken _ := by
    intro d scheduled
    simp only [take, Option.mem_def, Option.or_eq_some_iff, Option.some.injEq] at scheduled
    rcases scheduled with before | ⟨-, rfl⟩
    · exact h.woken going d before
    · omega
  timely := h.timely

/-- What a printer writes when an event ends the window. -/
theorem sink_of_gather (h : Punctual p₀ lag now held written p) {event : Event}
    (handled : p.handle now event = p.endWindow now event) :
    (p.handle now event).sink =
      (written ++ (p.writing? held now event).toList).foldl p₀.put p₀.sink := by
  have empty : (p.handle now event).buffer = [] := by rw [handled, endWindow_buffer]
  have records : (gathered held now event).map (·.record) = (p.gather event).buffer := by
    simp [gathered, gather, h.records, Function.comp_def]
  have sink : (p.handle now event).sink = ((p.gather event).flush now).sink := by
    rw [handled]; rfl
  have same : (p.gather event).sink = p.sink := rfl
  rw [sink, List.foldl_append, ← h.sink]
  by_cases nothing : gathered held now event = []
  · have : (p.gather event).buffer = [] := by simp [← records, nothing]
    simp [writing?, nothing, flush, this, same]
  · have filled : (p.gather event).buffer ≠ [] := by simpa [← records] using nothing
    have layout : (p.gather event).layout = p₀.layout := h.layout
    have follow : (p.gather event).follow = p₀.follow := h.follow
    simp [writing?, nothing, empty, flush, filled, printWindow, put, records, layout, follow, same]

/-- A window that is written in time: what was held is not overdue, and only a run that is cancelled
has more to add. -/
theorem writes (h : Punctual p₀ lag now held written p) (going : p.verdict = none) {event : Event}
    (plain : ∀ r, event = .received r → r.isFailure = true) :
    Timely p₀.window lag ⟨gathered held now event, now, event.isCancelled⟩ where
  readable := by
    refine List.forall_mem_append.2 ⟨h.readable, ?_⟩
    intro r mem
    obtain ⟨record, taken, rfl⟩ := List.mem_map.1 mem
    simpa [Printer.readable] using (List.mem_filter.1 taken).2
  prompt := by
    refine List.forall_mem_append.2 ⟨?_, ?_⟩
    · intro r mem
      exact ⟨h.past r mem, h.prompt going mem⟩
    · intro r mem
      obtain ⟨record, -, rfl⟩ := List.mem_map.1 mem
      exact ⟨Nat.le_refl now, Nat.le_add_right_of_le (Nat.le_add_right now p₀.window)⟩
  close := by
    intro calm
    have nothing : event.taken.filter Printer.readable = [] := by
      cases event with
      | cancelled => cases calm
      | windowOver | closed => rfl
      | received r => simp [Event.taken, Printer.readable, plain r rfl]
    simpa [gathered, nothing] using h.close

/-- What an event that ends the window makes of it. -/
theorem ends (h : Punctual p₀ lag now held written p) (going : p.verdict = none) {event : Event}
    (plain : ∀ r, event = .received r → r.isFailure = true)
    (handled : p.handle now event = p.endWindow now event) :
    Punctual p₀ lag now (p.heldAfter held now event)
      (written ++ (p.writing? held now event).toList) (p.handle now event) := by
  have empty : (p.handle now event).buffer = [] := by rw [handled, endWindow_buffer]
  have nothing : p.heldAfter held now event = [] := if_pos empty
  -- Only a deadline that has passed leaves the run as it is.
  have disarmed : (p.handle now event).verdict = none → (p.handle now event).deadline = none := by
    intro still
    rw [handled] at still ⊢
    obtain rfl := eq_windowOver plain (Option.or_eq_none_iff.1 still).2
    exact flush_deadline now
  obtain ⟨window, layout, follow⟩ := (p.gather event).flush_settings now
  rw [nothing]
  refine {
    window := by rw [handled]; exact window.trans h.window
    layout := by rw [handled]; exact layout.trans h.layout
    follow := by rw [handled]; exact follow.trans h.follow
    sink := h.sink_of_gather handled
    records := empty.symm
    readable := by simp
    past := by simp
    close := .nil
    deadline := disarmed
    woken := by simp +contextual [disarmed]
    timely := List.forall_mem_append.2 ⟨h.timely, ?_⟩ }
  intro w new
  obtain ⟨-, rfl⟩ : _ ∧ _ = w := by simpa [writing?] using new
  exact h.writes going plain

/-- What an event does to a printer in the course of time. -/
theorem sees (h : Punctual p₀ lag now held written p) (going : p.verdict = none)
    {cancelled closed : Bool} {queue : List RawRecord} {event : Event}
    (sees : p.next now cancelled queue closed = some event) :
    Punctual p₀ lag now (p.heldAfter held now event)
      (written ++ (p.writing? held now event).toList) (p.handle now event) := by
  rcases handle_cases p now event with ⟨r, notFailure, rfl, handled⟩ | ⟨plain, handled⟩
  · have filled : (p.handle now (.received r)).buffer ≠ [] := by simp [handled, take]
    have joined : p.heldAfter held now (.received r) = held ++ [⟨r, now⟩] := by
      simp [heldAfter, filled, gathered, Event.taken, Printer.readable, notFailure]
    have nothing : p.writing? held now (.received r) = none := by simp [writing?, filled]
    rw [joined, nothing, handled, Option.toList_none, List.append_nil]
    exact h.takes going notFailure (early_of_received sees)
  · exact h.ends going plain handled

end Punctual

theorem Timed.punctual (unused : p₀.Unused) (run : Timed p₀ lag now held written p) :
    Punctual p₀ lag now held written p := by
  induction run with
  | start now => exact .start unused now
  | waits _ ms woken ih => exact ih.waits ms woken
  | sees _ going sees ih => exact ih.sees going sees

/-! ## The main result -/

/-- While a printer is at work, a deadline is set exactly if there is something in the window, and
it is the time of the oldest record plus the length of a window. Neither the window nor any window
that is written holds a failure. If the printer is woken at its deadlines, no record is held or
written later than a window after it was received, and records that are a window apart are in
different windows, other than in the last window of a run that is cancelled; with wakings that come
late by at most `lag`, records wait for no longer than that on top. -/
theorem Timed.flushes_in_time (unused : p₀.Unused) (run : Timed p₀ lag now held written p) :
    held.map (·.record) = p.buffer ∧
    p.sink = written.foldl p₀.put p₀.sink ∧
    (p.verdict = none →
      (p.deadline.isSome = true ↔ p.buffer ≠ []) ∧
      p.deadline = held.head?.map (·.time + p₀.window) ∧
      ∀ r ∈ held, now ≤ r.time + p₀.window + lag) ∧
    (∀ r ∈ p.buffer, r.isFailure = false) ∧
    ∀ w ∈ written,
      (∀ r ∈ w.window, r.record.isFailure = false) ∧
      (∀ r ∈ w.window, r.time ≤ w.time ∧ w.time ≤ r.time + p₀.window + lag) ∧
      (w.atCancel = false → w.window.Pairwise fun a b =>
        a.time ≤ b.time ∧ b.time < a.time + p₀.window) := by
  have h := run.punctual unused
  refine ⟨h.records, h.sink, ?_, ?_, ?_⟩
  · intro going
    have scheduled := h.deadline going
    refine ⟨?_, scheduled, fun r mem => h.prompt going mem⟩
    rw [scheduled, ← h.records]
    cases held <;> simp
  · rw [← h.records]
    exact List.forall_mem_map.2 h.readable
  · intro w mem
    have timely := h.timely w mem
    exact ⟨timely.readable, timely.prompt, timely.close⟩

/-- When the records of `timely` come to a printer of short windows, and when it writes them. -/
def onTime : Writing :=
  ⟨[⟨.data "b" "one" ⟨1, 0⟩, 0⟩, ⟨.terminal "a" (some "rest") ⟨5, 0⟩, 60⟩], 100, false⟩

theorem brisk_flushes_in_time :
    ∃ p, Timed brisk 0 100 [] [onTime] p ∧
      (p.deadline.isSome = true ↔ p.buffer ≠ []) ∧
      p.sink = brisk.put brisk.sink onTime := by
  have line : brisk.next 0 false timely false = some (.received (.data "b" "one" ⟨1, 0⟩)) := rfl
  have begins : Timed brisk 0 0 [] [] brisk := .start 0
  have started := begins.sees rfl line
  have ending : (brisk.take 0 (.data "b" "one" ⟨1, 0⟩)).next 60 false timely.tail false =
      some (.received (.terminal "a" (some "rest") ⟨5, 0⟩)) := rfl
  have gathers : Timed brisk 0 60 onTime.window [] filled :=
    (started.waits 60 (by simp [handle, take, brisk])).sees rfl ending
  have due : filled.next 100 false [] false = some .windowOver := rfl
  have writes : Timed brisk 0 100 [] [onTime] (filled.handle 100 .windowOver) :=
    (gathers.waits 40 (by simp [filled])).sees rfl due
  have going : (filled.handle 100 .windowOver).verdict = none :=
    flush_verdict (p := { filled with deadline := none }) ⟨rfl, rfl⟩ rfl rfl 100
  obtain ⟨-, sink, atWork, -⟩ := writes.flushes_in_time ⟨rfl, rfl⟩
  exact ⟨_, writes, (atWork going).1, sink⟩

/-! ## Sessions -/

/-- What an event brings is held, or it is in the window that is written. -/
theorem writing_append_heldAfter (p : Printer) (held : List Receipt) (now : Nat) (event : Event) :
    (p.writing? held now event).toList.flatMap (·.window) ++ p.heldAfter held now event =
      gathered held now event := by
  by_cases empty : (p.handle now event).buffer = [] <;>
    by_cases nothing : gathered held now event = [] <;>
    simp [writing?, heldAfter, empty, nothing]

theorem Timed.mono {more : Nat} (run : Timed p₀ lag now held written p) (le : lag ≤ more) :
    Timed p₀ more now held written p := by
  induction run with
  | start now => exact .start now
  | waits _ ms woken ih =>
    exact ih.waits ms fun going d scheduled =>
      Nat.le_trans (woken going d scheduled) (Nat.add_le_add_left le d)
  | sees _ going sees ih => exact ih.sees going sees

end Printer

open Printer (readable Timed) in
/-- The printer of a session is one in the course of time, and the records it has taken are those in
the windows it has written and in the one that it holds. -/
theorem Session.Run.timed {s₀ s : Session} {offered taken : List RawRecord}
    (run : Session.Run s₀ offered taken s) :
    ∃ lag held written, Timed s₀.printer lag s.now held written s.printer ∧
      (written.flatMap (·.window) ++ held).map (·.record) = taken.filter readable := by
  induction run with
  | start => exact ⟨0, [], [], .start _, rfl⟩
  | @works _ _ s event _ going sees ih =>
    obtain ⟨lag, held, written, timed, records⟩ := ih
    refine ⟨lag, _, _, timed.sees going sees, ?_⟩
    rw [List.flatMap_append, List.append_assoc, Printer.writing_append_heldAfter,
      Printer.gathered, ← List.append_assoc, List.map_append, records, List.filter_append]
    simp [Function.comp_def]
  | arrives _ _ _ _ ih | cancels _ ih | closes _ ih => exact ih
  | @timePasses _ _ s _ ms ih =>
    obtain ⟨lag, held, written, timed, records⟩ := ih
    refine ⟨lag + (s.now + ms), held, written, ?_, records⟩
    exact (timed.mono (Nat.le_add_right ..)).waits ms fun _ d _ => by omega

end Chronicle
