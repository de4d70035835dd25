import Chronicle.Printing.Session
import Chronicle.Proofs.Printing
/-!
# Every record is printed once

`Session.Run` lets anything happen to a printer and its queue in any order: records arrive, time
passes, the run is cancelled, the queue is closed, and the printer works on whatever it sees first.
The main result is `Run.prints_each_record_once`: what the printer has written when it is done is a
sequence of windows that together hold the readable records it took, each once and in order, and
its verdict is the first failure among the records it took.
-/

namespace Chronicle.Session

open Printer (readable Ends Printed)

/-- Runs of a session from `s₀`, with the records that were ever in the queue and those the printer
has taken from it, both in order. -/
inductive Run (s₀ : Session) : List RawRecord → List RawRecord → Session → Prop where
  | start : Run s₀ s₀.queue [] s₀
  | works {offered taken : List RawRecord} {s : Session} {event : Printer.Event}
      (before : Run s₀ offered taken s) (going : s.printer.verdict = none)
      (sees : s.printer.next s.now s.cancelled s.queue s.closed = some event) :
      Run s₀ offered (taken ++ event.taken)
        { s with printer := s.printer.handle s.now event, queue := event.leaves s.queue }
  | arrives {offered taken : List RawRecord} {s : Session} (before : Run s₀ offered taken s)
      (going : s.printer.verdict = none) (opened : s.closed = false) (r : RawRecord) :
      Run s₀ (offered ++ [r]) taken { s with queue := s.queue ++ [r] }
  | cancels {offered taken : List RawRecord} {s : Session} (before : Run s₀ offered taken s) :
      Run s₀ offered taken { s with cancelled := true }
  | closes {offered taken : List RawRecord} {s : Session} (before : Run s₀ offered taken s) :
      Run s₀ offered taken { s with closed := true }
  | timePasses {offered taken : List RawRecord} {s : Session} (before : Run s₀ offered taken s)
      (ms : Nat) : Run s₀ offered taken { s with now := s.now + ms }

/-! ## What a run keeps -/

/-- The account of a session: where the records are that were ever in its queue. -/
structure Kept (s₀ : Session) (offered taken : List RawRecord) (s : Session) : Prop where
  queue : offered = taken ++ s.queue
  printed : Printed s₀.printer s.printer (taken.filter readable)
  going : s.printer.verdict = none → ∀ r ∈ taken, r.isFailure = false
  ended : ∀ v, s.printer.verdict = some v → Ends taken v ∧ s.printer.buffer = []
  finished : s.printer.verdict = some .finished →
    s.queue = [] ∧ (s.cancelled = true ∨ s.closed = true)

/-- A run can finish only when it is cancelled, or when the queue is closed and empty. -/
theorem finished_of_handle {p₀ : Printer} {s : Session} {event : Printer.Event}
    {records : List RawRecord} (printed : Printed p₀ s.printer records)
    (going : s.printer.verdict = none)
    (sees : s.printer.next s.now s.cancelled s.queue s.closed = some event)
    (done : (s.printer.handle s.now event).verdict = some .finished) :
    event.leaves s.queue = [] ∧ (s.cancelled = true ∨ s.closed = true) := by
  rcases Printer.next_cases sees with ⟨cancelled, rfl⟩ | ⟨-, -, rfl⟩ | ⟨-, r, -, rfl⟩ |
    ⟨-, empty, closed, rfl⟩
  · exact ⟨rfl, .inl cancelled⟩
  · -- The end of a window decides nothing.
    have := Printer.flush_verdict (p := { s.printer with deadline := none }) printed.sink
      printed.pending going s.now
    simp [Printer.handle, this] at done
  · rcases printed.handle_verdict going s.now (.received r) with ⟨none, -⟩ | ⟨v, verdict, ends, -⟩
    · simp [none] at done
    · -- Of single records only a failure ends the run.
      obtain rfl : v = .finished := by simpa [verdict] using done
      cases r with
      | failure service fault =>
        cases ends with
        | finished all => simpa [RawRecord.isFailure] using all _ (List.mem_singleton.2 rfl)
      | data _ _ _ => simp [Printer.handle, Printer.take, going] at done
      | terminal _ _ _ => simp [Printer.handle, Printer.take, going] at done
  · exact ⟨by simpa [Printer.Event.leaves] using empty, .inr closed⟩

theorem Kept.works {s₀ s : Session} {offered taken : List RawRecord} {event : Printer.Event}
    (h : Kept s₀ offered taken s) (going : s.printer.verdict = none)
    (sees : s.printer.next s.now s.cancelled s.queue s.closed = some event) :
    Kept s₀ offered (taken ++ event.taken)
      { s with printer := s.printer.handle s.now event, queue := event.leaves s.queue } where
  queue := by rw [List.append_assoc, Printer.taken_append_leaves sees, h.queue]
  printed := by simpa using h.printed.handle s.now event
  going := by
    intro still
    rcases h.printed.handle_verdict going s.now event with ⟨-, readable⟩ | ⟨v, verdict, -⟩
    · intro r hr
      exact (List.mem_append.1 hr).elim (h.going going r) (readable r)
    · simp [verdict] at still
  ended := by
    intro v done
    rcases h.printed.handle_verdict going s.now event with ⟨none, -⟩ | ⟨u, verdict, ends, empty⟩
    · simp [none] at done
    · obtain rfl : u = v := by simpa [verdict] using done
      exact ⟨ends.append (h.going going), empty⟩
  finished := finished_of_handle h.printed going sees

theorem Run.kept {s₀ s : Session} {offered taken : List RawRecord} (fresh : s₀.printer.Fresh)
    (run : Run s₀ offered taken s) : Kept s₀ offered taken s := by
  induction run with
  | start =>
    exact ⟨rfl, fresh.printed, by simp, by simp [fresh.verdict], by simp [fresh.verdict]⟩
  | works _ going sees ih => exact ih.works going sees
  | arrives _ going _ r ih =>
    exact ⟨by simp [ih.queue], ih.printed, ih.going, ih.ended, by simp [going]⟩
  | cancels _ ih =>
    exact ⟨ih.queue, ih.printed, ih.going, ih.ended, fun h => ⟨(ih.finished h).1, .inl rfl⟩⟩
  | closes _ ih =>
    exact ⟨ih.queue, ih.printed, ih.going, ih.ended, fun h => ⟨(ih.finished h).1, .inr rfl⟩⟩
  | timePasses _ _ ih => exact ⟨ih.queue, ih.printed, ih.going, ih.ended, ih.finished⟩

/-- With nothing left in the buffer, all readable records that were taken are in windows that were
written. -/
theorem Kept.windows {s₀ s : Session} {offered taken : List RawRecord}
    (h : Kept s₀ offered taken s) (fresh : s₀.printer.Fresh) (empty : s.printer.buffer = []) :
    ∃ windows : List (List RawRecord), (∀ window ∈ windows, window ≠ []) ∧
      windows.flatten = taken.filter readable ∧
      s.printer.sink.written =
        s₀.printer.sink.written ++ (windows.map s₀.printer.windowBytes).flatten := by
  obtain ⟨windows, nonempty, split, texts⟩ := h.printed.windows
  refine ⟨windows, nonempty, by simpa [empty] using split, ?_⟩
  rw [Sink.written_eq, Sink.written_eq, texts, h.printed.pending, fresh.pending]
  simp

/-- What was taken can all be read in what was written. -/
theorem Kept.shows {s₀ s : Session} {offered taken : List RawRecord}
    (h : Kept s₀ offered taken s) (fresh : s₀.printer.Fresh) (empty : s.printer.buffer = []) :
    s₀.printer.Shows taken s.printer.sink.written := by
  obtain ⟨windows, -, split, written⟩ := h.windows fresh empty
  have shown := (s₀.printer.shows_windows windows).append_left s₀.printer.sink.written
  rw [split, ← written] at shown
  exact shown.of_readable

/-! ## How a run comes to its end -/

section Ends

variable {s₀ s t : Session} {offered taken : List RawRecord}

/-- A printer at work that is cancelled takes all that is queued, and is done. -/
theorem work?_of_cancelled (going : s.printer.verdict = none) (cancelled : s.cancelled = true) :
    s.work? =
      some { s with printer := s.printer.handle s.now (.cancelled s.queue), queue := [] } := by
  simp [work?, going, cancelled, Printer.next_cancelled, Printer.Event.leaves]

/-- A window that is over is written before anything is taken. -/
theorem work?_of_due (going : s.printer.verdict = none) (calm : s.cancelled = false)
    (due : s.printer.deadline.any (· ≤ s.now) = true) :
    s.work? = some { s with printer := s.printer.handle s.now .windowOver } := by
  simp [work?, going, calm, Printer.next_windowOver due, Printer.Event.leaves]

/-- A printer with nothing more to come is done. -/
theorem work?_of_closed (going : s.printer.verdict = none) (calm : s.cancelled = false)
    (early : s.printer.deadline.any (· ≤ s.now) = false) (closed : s.closed = true)
    (empty : s.queue = []) :
    s.work? = some { s with printer := s.printer.handle s.now .closed } := by
  simp [work?, going, calm, Printer.next, early, empty, closed, Printer.Event.leaves]

theorem workFor_of_work? (work : s.work? = some t) (events : Nat) :
    s.workFor (events + 1) = t.workFor events := by
  rw [workFor, work]

theorem workFor_ends (work : s.work? = some t) (done : t.printer.verdict.isSome = true)
    (events : Nat) : (s.workFor (events + 1)).printer.verdict.isSome = true := by
  rw [workFor_of_work? work]
  cases events with
  | zero => exact done
  | succ events => simp [workFor, work?, done]

/-- A printer takes nothing from an empty queue. -/
theorem Run.works_on_nothing (run : Run s₀ offered taken s) (empty : s.queue = [])
    (work : s.work? = some t) : Run s₀ offered taken t ∧ t.queue = [] := by
  unfold work? at work
  split at work
  · cases work
  · next going =>
    obtain ⟨event, sees, rfl⟩ := Option.map_eq_some_iff.1 work
    have nothing := Printer.taken_append_leaves sees
    rw [empty, List.append_eq_nil_iff] at nothing
    have next := run.works (by simpa using going) sees
    rw [nothing.1, List.append_nil] at next
    exact ⟨next, by rw [empty, nothing.2]⟩

theorem Run.workFor_on_nothing (run : Run s₀ offered taken s) (empty : s.queue = [])
    (events : Nat) : Run s₀ offered taken (s.workFor events) := by
  induction events generalizing s with
  | zero => exact run
  | succ events ih =>
    unfold workFor
    split
    · exact run
    · next t work =>
      obtain ⟨next, empty'⟩ := run.works_on_nothing empty work
      exact ih next empty'

/-- A printer whose queue is empty and closed writes a window that is over, and is done. -/
theorem Run.closes_down (fresh : s₀.printer.Fresh) (run : Run s₀ offered taken s)
    (going : s.printer.verdict = none) (closed : s.closed = true) (empty : s.queue = []) :
    Run s₀ offered taken s.settle ∧ s.settle.printer.verdict.isSome = true := by
  refine ⟨run.workFor_on_nothing empty _, ?_⟩
  rw [settle, empty]
  cases calm : s.cancelled with
  | true => exact workFor_ends (work?_of_cancelled going calm) (Printer.conclude_isSome _ _) _
  | false =>
    cases due : s.printer.deadline.any (· ≤ s.now) with
    | false =>
      have last := work?_of_closed going calm due closed empty
      exact workFor_ends last (Printer.conclude_isSome _ _) _
    | true =>
      -- The window is written first. It leaves no deadline behind it.
      have printed := (run.kept fresh).printed
      have going' : (s.printer.handle s.now .windowOver).verdict = none :=
        Printer.flush_verdict (p := { s.printer with deadline := none }) printed.sink
          printed.pending going s.now
      have early : (s.printer.handle s.now .windowOver).deadline.any (· ≤ s.now) = false := by
        simp [Printer.handle, Printer.flush_deadline]
      have last := work?_of_closed
        (s := { s with printer := s.printer.handle s.now .windowOver })
        going' calm early closed empty
      rw [workFor_of_work? (work?_of_due going calm due)]
      exact workFor_ends last (Printer.conclude_isSome _ _) _

end Ends

/-! ## The main result -/

/-- When the printer is done, what it wrote since the start is one window after the other, flushed
and with nothing left in the buffer. Together the windows hold the readable records it took from the
queue, each once and in order, so that the line of each entry that these have to show is among what
was written, and the verdict is the first failure among the records it took. A printer that is still
at work has taken no failure. If it is cancelled it takes all that is queued at that moment, and is
done; and if its queue is empty and closed it is done without taking anything. -/
theorem Run.prints_each_record_once {s₀ s : Session} {offered taken : List RawRecord}
    (fresh : s₀.printer.Fresh) (run : Run s₀ offered taken s) :
    (∀ v, s.printer.verdict = some v →
      offered = taken ++ s.queue ∧
      (∃ windows : List (List RawRecord), (∀ window ∈ windows, window ≠ []) ∧
        windows.flatten = taken.filter readable ∧
        s.printer.sink.written =
          s₀.printer.sink.written ++ (windows.map s₀.printer.windowBytes).flatten) ∧
      s₀.printer.Shows taken s.printer.sink.written ∧
      s.printer.sink.pending = [] ∧ s.printer.buffer = [] ∧ Ends taken v) ∧
    (s.printer.verdict = none → ∀ r ∈ taken, r.isFailure = false) ∧
    (s.printer.verdict = none → s.cancelled = true →
      ∃ t, s.work? = some t ∧ Run s₀ offered (taken ++ s.queue) t ∧ t.queue = [] ∧
        t.printer.verdict.isSome = true) ∧
    (s.printer.verdict = none → s.closed = true → s.queue = [] →
      Run s₀ offered taken s.settle ∧ s.settle.printer.verdict.isSome = true) := by
  have kept := run.kept fresh
  refine ⟨?_, kept.going, ?_, run.closes_down fresh⟩
  · intro v done
    obtain ⟨ends, empty⟩ := kept.ended v done
    exact ⟨kept.queue, kept.windows fresh empty, kept.shows fresh empty, kept.printed.pending,
      empty, ends⟩
  · intro going cancelled
    have sees : s.printer.next s.now s.cancelled s.queue s.closed = some (.cancelled s.queue) := by
      rw [cancelled, Printer.next_cancelled]
    have next := run.works going sees
    exact ⟨_, work?_of_cancelled going cancelled, next, rfl, Printer.conclude_isSome _ _⟩

/-- Two lines and a failure between them are queued when the run is cancelled. -/
def interrupted : Session where
  printer := { layout := {}, window := 100, follow := false }
  capacity := 8
  queue := [.data "a" "last" ⟨1, 0⟩, .failure "a" (.other "refused"), .data "b" "words" ⟨2, 0⟩]
  cancelled := true

theorem interrupted_prints_both_lines :
    interrupted.printer.Fresh ∧ Run interrupted interrupted.queue [] interrupted ∧
      ∃ t, Run interrupted interrupted.queue interrupted.queue t ∧
        ∃ v, t.printer.verdict = some v ∧ Ends interrupted.queue v ∧ t.printer.buffer = [] := by
  have fresh : interrupted.printer.Fresh := ⟨⟨rfl, rfl⟩, rfl, rfl, rfl⟩
  refine ⟨fresh, .start, ?_⟩
  obtain ⟨t, -, run, -, done⟩ := (Run.start.prints_each_record_once fresh).2.2.1 rfl rfl
  obtain ⟨v, verdict⟩ := Option.isSome_iff_exists.1 done
  obtain ⟨-, -, -, -, empty, ends⟩ := (run.prints_each_record_once fresh).1 v verdict
  exact ⟨t, run, v, verdict, ends, empty⟩

end Chronicle.Session
