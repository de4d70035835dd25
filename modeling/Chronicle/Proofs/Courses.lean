import Chronicle.Proofs.Ordering
import Chronicle.Proofs.Sessions
/-!
# Windows in the course of a printer

A printer cuts the records it takes into windows as they come: at a deadline, at a failure, at the
end. `Printer.Course` follows a printer from event to event and keeps the windows that it has
written. Entries of one service that come in order of time are shown in that order, whatever the
windows are (`Session.Run.shows_services_in_order`), and if no record is late the windows cannot be
told from what is written (`Printer.Course.prints_as_one_window`).
-/

namespace Chronicle

namespace Printer

variable {p₀ p : Printer} {windows : List (List RawRecord)} {taken : List RawRecord}

/-! ## The windows a printer writes -/

/-- The window that an event makes the printer write: what was in the buffer and what the event
brought, if the buffer is empty afterwards. -/
def window? (p : Printer) (now : Nat) (event : Event) : Option (List RawRecord) :=
  let gathered := p.buffer ++ event.taken.filter readable
  if gathered ≠ [] ∧ (p.handle now event).buffer = [] then some gathered else none

/-- The entries that a printer shows of its windows: each window by itself in order of time. -/
def shown (p : Printer) (windows : List (List RawRecord)) : List Entry :=
  windows.flatMap (Window.resolve · p.follow)

/-- A printer from one event to the next, with the windows it has written and the records it has
taken. Each event is what a printer at work sees first, whatever the time is, whether or not the
run is cancelled, and whatever is queued. -/
inductive Course (p₀ : Printer) : List (List RawRecord) → List RawRecord → Printer → Prop where
  | start : Course p₀ [] [] p₀
  | sees {windows : List (List RawRecord)} {taken queue : List RawRecord} {p : Printer} {now : Nat}
      {cancelled closed : Bool} {event : Event} (before : Course p₀ windows taken p)
      (going : p.verdict = none) (sees : p.next now cancelled queue closed = some event) :
      Course p₀ (windows ++ (p.window? now event).toList) (taken ++ event.taken)
        (p.handle now event)

theorem flush_texts (sink : p.sink.NeverFails) (pending : p.sink.pending = []) (now : Nat) :
    (p.flush now).sink.texts =
      p.sink.texts ++ if p.buffer = [] then [] else [p.windowBytes p.buffer] := by
  by_cases empty : p.buffer = []
  · simp [flush, empty]
  · simp [flush_eq sink pending empty, Sink.texts, empty]

/-- The window of an event is what it makes the printer write, and nothing is lost or added. -/
theorem handle_window (sink : p.sink.NeverFails) (pending : p.sink.pending = []) (now : Nat)
    (event : Event) :
    (p.handle now event).sink.texts =
        p.sink.texts ++ (p.window? now event).toList.map p.windowBytes ∧
      (p.window? now event).toList.flatten ++ (p.handle now event).buffer =
        p.buffer ++ event.taken.filter readable := by
  rcases handle_cases p now event with ⟨r, notFailure, rfl, handled⟩ | ⟨-, handled⟩
  · -- The record waits in the buffer, and nothing is written.
    have none : p.window? now (.received r) = none := by simp [window?, handled, take]
    simp [none, handled, take, Event.taken, readable, notFailure]
  · have texts := flush_texts (p := p.gather event) sink pending now
    have empty : (p.handle now event).buffer = [] := by rw [handled, endWindow_buffer]
    have gathered : (p.gather event).buffer = p.buffer ++ event.taken.filter readable := rfl
    have bytes : (p.gather event).windowBytes = p.windowBytes := rfl
    have written : (p.handle now event).sink = ((p.gather event).flush now).sink := by
      rw [handled]; rfl
    rw [written, texts, gathered, bytes, window?]
    by_cases nothing : p.buffer ++ event.taken.filter readable = []
    · simp [nothing, empty, gather]
    · simp [nothing, empty, gather]

namespace Course

/-! ## What a course comes to -/

/-- What the windows of a course are: together with the buffer they hold the readable records that
were taken, in order, and each was written and flushed by itself. -/
structure Account (p₀ : Printer) (windows : List (List RawRecord)) (taken : List RawRecord)
    (p : Printer) : Prop where
  printed : Printed p₀ p (taken.filter readable)
  split : windows.flatten ++ p.buffer = taken.filter readable
  texts : p.sink.texts = p₀.sink.texts ++ windows.map p₀.windowBytes
  ended : p.verdict.isSome = true → p.buffer = []

theorem account (fresh : p₀.Fresh) (course : Course p₀ windows taken p) :
    Account p₀ windows taken p := by
  induction course with
  | start => exact ⟨fresh.printed, by simp [fresh.buffer], by simp, by simp [fresh.verdict]⟩
  | @sees windows taken queue p now cancelled closed event before going sees ih =>
    obtain ⟨texts, kept⟩ := handle_window ih.printed.sink ih.printed.pending now event
    have bytes : p.windowBytes = p₀.windowBytes := by
      funext records
      simp [windowBytes, ih.printed.layout, ih.printed.follow]
    refine ⟨by simpa using ih.printed.handle now event, ?_, ?_, ?_⟩
    · rw [List.flatten_append, List.append_assoc, kept, ← List.append_assoc, ih.split,
        List.filter_append]
    · rw [texts, ih.texts, bytes, List.map_append, List.append_assoc]
    · intro done
      rcases ih.printed.handle_verdict going now event with ⟨none, -⟩ | ⟨v, -, -, empty⟩
      · simp [none] at done
      · exact empty

/-- What a course has written are the entries of its windows, one window after the other. -/
theorem Account.written (h : Account p₀ windows taken p) (fresh : p₀.Fresh) :
    p.sink.written = p₀.sink.written ++ (p₀.shown windows).flatMap p₀.layout.lineBytes := by
  rw [shown, ← windows_bytes, Sink.written_eq, Sink.written_eq, h.texts, h.printed.pending,
    fresh.pending]
  simp

theorem entries_readable (follow : Bool) (records : List RawRecord) :
    Window.entries follow (records.filter readable) = Window.entries follow records := by
  induction records with
  | nil => rfl
  | cons r rest ih =>
    have split : Window.entries follow (r :: rest) =
        Window.entriesOf follow r ++ Window.entries follow rest := List.flatMap_cons
    cases r with
    | failure => simpa [readable, RawRecord.isFailure, split, Window.entriesOf] using ih
    | data | terminal =>
      rw [List.filter_cons_of_pos (by rfl), split, ← ih]
      rfl

/-- What is shown of a service whose entries come in order of time, and what of it still waits in
the buffer, are together what came from it. -/
theorem Account.ofService {service : String} (h : Account p₀ windows taken p)
    (inTime : Window.InTime (Window.ofService p₀.follow service taken)) :
    (p₀.shown windows).filter (·.service = service) ++
        Window.ofService p₀.follow service p.buffer =
      Window.ofService p₀.follow service taken := by
  have all : Window.ofService p₀.follow service taken =
      Window.ofService p₀.follow service windows.flatten ++
        Window.ofService p₀.follow service p.buffer := by
    rw [← Window.ofService_append, h.split, Window.ofService, Window.ofService, entries_readable]
  rw [all] at inTime ⊢
  rw [shown, Window.filter_flatMap_resolve (List.pairwise_append.1 inTime).1]
  rfl

/-- Windows do not matter unless a record is late. A course flushes its windows one by one, and they
hold the readable records it took, in order. None of the records is late exactly when the entries of
the windows, each sorted by itself, are those of all records sorted at once; and then what is
written in the end is what one window of all of them would have been. -/
theorem prints_as_one_window (fresh : p₀.Fresh) (course : Course p₀ windows taken p) :
    windows.flatten ++ p.buffer = taken.filter readable ∧
    p.sink.texts = p₀.sink.texts ++ windows.map p₀.windowBytes ∧
    (Window.NoneLate p₀.follow windows ↔
      p₀.shown windows = Window.resolve windows.flatten p₀.follow) ∧
    (Window.NoneLate p₀.follow windows → ∀ v, p.verdict = some v →
      p.sink.written = p₀.sink.written ++ p₀.windowBytes (taken.filter readable)) := by
  have account := course.account fresh
  refine ⟨account.split, account.texts, Window.flatMap_resolve_eq_iff.symm, ?_⟩
  intro noneLate v done
  have all : windows.flatten = taken.filter readable := by
    simpa [account.ended (by simp [done])] using account.split
  rw [account.written fresh, shown, Window.flatMap_resolve_eq_iff.2 noneLate, all]
  rfl

end Course

/-- A printer of short windows that shows notices. -/
def brisk : Printer := { layout := {}, window := 100, follow := true }

theorem brisk_fresh : brisk.Fresh := ⟨⟨rfl, rfl⟩, rfl, rfl, rfl⟩

/-- A line and the end of a stream that come within a window. -/
def timely : List RawRecord := [.data "b" "one" ⟨1, 0⟩, .terminal "a" (some "rest") ⟨5, 0⟩]

/-- The same printer when it has gathered them. -/
def filled : Printer := { brisk with buffer := timely, deadline := some 100 }

/-- What is queued when the run is cancelled, after the window. -/
def leftover : List RawRecord :=
  [.data "b" "two" ⟨5, 0⟩, .failure "b" (.other "reset"), .data "a" "again" ⟨6, 0⟩]

theorem brisk_prints_as_one_window :
    ∃ p v, Course brisk [timely, leftover.filter readable] (timely ++ leftover) p ∧
      p.verdict = some v ∧
      p.sink.written = brisk.windowBytes ((timely ++ leftover).filter readable) := by
  have line : brisk.next 0 false timely false = some (.received (.data "b" "one" ⟨1, 0⟩)) := rfl
  have started := Course.start.sees rfl line
  have ending : (brisk.take 0 (.data "b" "one" ⟨1, 0⟩)).next 60 false timely.tail false =
      some (.received (.terminal "a" (some "rest") ⟨5, 0⟩)) := rfl
  have gathers : Course brisk [] timely filled := started.sees rfl ending
  have due : filled.next 100 false [] false = some .windowOver := rfl
  have writes : Course brisk [timely] timely (filled.handle 100 .windowOver) :=
    gathers.sees rfl due
  have going : (filled.handle 100 .windowOver).verdict = none :=
    flush_verdict (p := { filled with deadline := none }) ⟨rfl, rfl⟩ rfl rfl 100
  have ends : Course brisk [timely, leftover.filter readable] (timely ++ leftover) _ :=
    writes.sees going (next_cancelled _ 120 leftover false)
  have done : ∃ v, ((filled.handle 100 .windowOver).handle 120 (.cancelled leftover)).verdict =
      some v := Option.isSome_iff_exists.1 (by simp [handle, conclude])
  obtain ⟨v, done⟩ := done
  refine ⟨_, v, ends, done, ?_⟩
  obtain ⟨-, -, -, same⟩ := ends.prints_as_one_window brisk_fresh
  exact same (by decide +kernel) v done

end Printer

/-! ## The services in a course -/

/-- The printer of a session takes its course. -/
theorem Session.Run.course {s₀ s : Session} {offered taken : List RawRecord}
    (run : Session.Run s₀ offered taken s) :
    ∃ windows, Printer.Course s₀.printer windows taken s.printer := by
  induction run with
  | start => exact ⟨[], .start⟩
  | works _ going sees ih =>
    obtain ⟨windows, course⟩ := ih
    exact ⟨_, course.sees going sees⟩
  | arrives _ _ _ _ ih | cancels _ ih | closes _ ih | timePasses _ _ ih => exact ih

/-- A service whose entries come in order of time is shown in that order, whatever else is printed
and wherever windows end: what is shown of it, with what waits in the buffer, is what came from it.
In the end nothing waits, and each notice stands after all that came before it, the last piece of
its own stream included, and before all that came after it. -/
theorem Session.Run.shows_services_in_order {s₀ s : Session} {offered taken : List RawRecord}
    {service : String} (fresh : s₀.printer.Fresh) (run : Session.Run s₀ offered taken s)
    (inTime : Window.InTime (Window.ofService s₀.printer.follow service taken)) :
    offered = taken ++ s.queue ∧
    ∃ windows, Printer.Course s₀.printer windows taken s.printer ∧
      s.printer.sink.written = s₀.printer.sink.written ++
        (s₀.printer.shown windows).flatMap s₀.printer.layout.lineBytes ∧
      (s₀.printer.shown windows).filter (·.service = service) ++
          Window.ofService s₀.printer.follow service s.printer.buffer =
        Window.ofService s₀.printer.follow service taken ∧
      ∀ v, s.printer.verdict = some v → s.printer.buffer = [] ∧
        ∀ before trailing receivedAt after, s₀.printer.follow = true →
          taken = before ++ .terminal service trailing receivedAt :: after →
          (s₀.printer.shown windows).filter (·.service = service) =
            Window.ofService true service before ++
                Window.entriesOf false (.terminal service trailing receivedAt) ++
              Entry.exitNotice service receivedAt :: Window.ofService true service after := by
  obtain ⟨windows, course⟩ := run.course
  have account := course.account fresh
  have inOrder := account.ofService inTime
  refine ⟨(run.kept fresh).queue, windows, course, account.written fresh, inOrder, ?_⟩
  intro v done
  have empty : s.printer.buffer = [] := account.ended (by simp [done])
  refine ⟨empty, ?_⟩
  intro before trailing receivedAt after follow split
  have nothing : Window.ofService s₀.printer.follow service [] = [] := rfl
  rw [empty, nothing, List.append_nil] at inOrder
  rw [inOrder, follow, split, Window.ofService_terminal]

/-- The end of a stream, and after it an earlier line of another service. -/
def Session.overtaken : Session where
  printer := .brisk
  capacity := 8
  queue := [.terminal "a" (some "rest") ⟨5, 0⟩, .data "b" "early" ⟨1, 0⟩, .data "a" "again" ⟨5, 0⟩]

theorem Session.overtaken_shows_services_in_order :
    ∃ s windows v, Session.Run overtaken overtaken.queue overtaken.queue s ∧
      s.printer.verdict = some v ∧
      Printer.Course overtaken.printer windows overtaken.queue s.printer ∧
      (overtaken.printer.shown windows).filter (·.service = "a") =
        [⟨"a", "rest", ⟨5, 0⟩, none⟩, Entry.exitNotice "a" ⟨5, 0⟩,
          ⟨"a", "again", ⟨5, 0⟩, none⟩] := by
  -- The end of the stream is a window of its own, and then the run is cancelled.
  obtain ⟨s, run, ended⟩ : ∃ s, Session.Run overtaken overtaken.queue overtaken.queue s ∧
      s.printer.verdict.isSome = true := by
    have ending : overtaken.printer.next 0 false overtaken.queue false =
        some (.received (.terminal "a" (some "rest") ⟨5, 0⟩)) := rfl
    have waits : Session.Run overtaken overtaken.queue (overtaken.queue.take 1)
        { overtaken with
          printer := { overtaken.printer with
            buffer := overtaken.queue.take 1, deadline := some 100 }
          queue := overtaken.queue.drop 1
          now := 100 } :=
      (Session.Run.start.works rfl ending).timePasses 100
    have due : Printer.next { overtaken.printer with
        buffer := overtaken.queue.take 1, deadline := some 100 } 100 false
        (overtaken.queue.drop 1) false = some .windowOver := rfl
    have writes := (waits.works rfl due).cancels
    refine ⟨_, writes.works (Printer.flush_verdict ⟨rfl, rfl⟩ rfl rfl 100)
      (Printer.next_cancelled ..), ?_⟩
    simp [Printer.handle, Printer.conclude]
  obtain ⟨v, done⟩ := Option.isSome_iff_exists.1 ended
  have inTime : Window.InTime (Window.ofService overtaken.printer.follow "a" overtaken.queue) := by
    decide +kernel
  obtain ⟨-, windows, course, -, -, last⟩ :=
    run.shows_services_in_order Printer.brisk_fresh inTime
  refine ⟨s, windows, v, run, done, course, ?_⟩
  rw [(last v done).2 [] (some "rest") ⟨5, 0⟩ _ rfl rfl]
  decide +kernel

end Chronicle
