import Chronicle.Proofs.Queue
import Chronicle.Proofs.Waiting
import Mathlib.Algebra.Order.BigOperators.Group.List
import Mathlib.Algebra.Order.Ring.Nat
/-!
# How lines look

How lines look matters to the bytes that are written and to nothing else. A printer that has shown
some windows is the same in every layout, but for these bytes: `Printer.dressed`. It does the same
about every event, so a session goes the same way in all layouts (`Session.Run.dressed`). A run does
too, unless a call waits until so much is printed; even then, in a layout whose lines are no shorter
it does not wait longer (`World.Reachable.dressed`).
-/

namespace Chronicle

/-! ## Windows that have been shown -/

/-- Windows with the time at which each was flushed. -/
abbrev ShownWindows := List (Nat × List RawRecord)

/-- The records of the windows, in the order in which they came. -/
def ShownWindows.records (windows : ShownWindows) : List RawRecord := windows.flatMap (·.2)

namespace Sink

/-- The sink after these windows, with such lines for the entries. -/
def showing (s : Sink) (line : Entry → List UInt8) (follow : Bool) (windows : ShownWindows) :
    Sink :=
  { s with
    flushed := s.flushed ++ windows.map fun w => (w.1, (Window.resolve w.2 follow).flatMap line) }

theorem flushedSize_eq (s : Sink) : s.flushedSize = (s.flushed.map (·.2.length)).sum := by
  have from_start (start : Nat) (flushes : List (Nat × List UInt8)) :
      flushes.foldl (fun size f => size + f.2.length) start =
        start + (flushes.map (·.2.length)).sum := by
    induction flushes generalizing start with
    | nil => rfl
    | cons f rest ih =>
      rw [List.foldl_cons, ih, List.map_cons, List.sum_cons, Nat.add_assoc]
  rw [flushedSize, from_start, Nat.zero_add]

/-- With longer lines more has been printed. -/
theorem flushedSize_showing_le (s : Sink) {line line' : Entry → List UInt8}
    (longer : ∀ e, (line e).length ≤ (line' e).length) (follow : Bool) (windows : ShownWindows) :
    (s.showing line follow windows).flushedSize ≤
      (s.showing line' follow windows).flushedSize := by
  rw [flushedSize_eq, flushedSize_eq]
  simp only [showing, List.map_append, List.sum_append, List.map_map]
  refine Nat.add_le_add_left (List.sum_le_sum fun window _ => ?_) _
  simp only [Function.comp, List.length_flatMap]
  exact List.sum_le_sum fun e _ => longer e

end Sink

/-! ## Printers -/

namespace Printer

variable {sink : Sink}

/-- The printer in a layout, when it has shown these windows since its sink was `sink`. -/
def dressed (p : Printer) (sink : Sink) (windows : ShownWindows) (l : Layout) : Printer :=
  { p with layout := l, sink := sink.showing l.lineBytes p.follow windows }

theorem dressed_nil (p : Printer) (l : Layout) :
    p.dressed p.sink [] l = { p with layout := l } := by
  simp [dressed, Sink.showing]

variable (never : sink.NeverFails) (pending : sink.pending = [])
include never pending

theorem flush_dressed (p : Printer) (windows : ShownWindows) (now : Nat) :
    ∃ (q : Printer) (shown : ShownWindows),
      shown.records ++ q.buffer = windows.records ++ p.buffer ∧
        ∀ l, (p.dressed sink windows l).flush now = q.dressed sink shown l := by
  by_cases empty : p.buffer = []
  · refine ⟨p, windows, rfl, fun l => ?_⟩
    have same : (p.dressed sink windows l).buffer = [] := empty
    rw [flush, if_pos same]
  · -- The buffer becomes one more window.
    refine ⟨{ p with
      buffer := []
      warnings := p.warnings + p.buffer.countP Window.isUnstamped
      verdict := none }, windows ++ [(now, p.buffer)], ?_, fun l => ?_⟩
    · simp [ShownWindows.records]
    · have sound : (p.dressed sink windows l).sink.NeverFails := ⟨never.room, never.flushes⟩
      rw [flush_eq sound pending empty]
      simp [dressed, Sink.showing, windowBytes]

/-- What a printer does about an event it does in every layout. -/
theorem handle_dressed (p : Printer) (windows : ShownWindows) (now : Nat) (event : Event) :
    ∃ (q : Printer) (shown : ShownWindows),
      shown.records ++ q.buffer = windows.records ++ p.buffer ++ event.taken.filter readable ∧
        ∀ l, (p.dressed sink windows l).handle now event = q.dressed sink shown l := by
  rcases handle_cases p now event with ⟨r, notFailure, rfl, -⟩ | ⟨plain, -⟩
  · refine ⟨p.take now r, windows, ?_, fun l => ?_⟩
    · simp [take, Event.taken, readable, notFailure]
    · cases r with
      | failure => cases notFailure
      | data | terminal => rfl
  · obtain ⟨q, shown, kept, flushed⟩ := flush_dressed never pending (p.gather event) windows now
    refine ⟨{ q with verdict := q.verdict.or event.verdict? }, shown, ?_, fun l => ?_⟩
    · exact kept.trans (List.append_assoc _ _ _).symm
    · have gathered : (p.dressed sink windows l).gather event =
          (p.gather event).dressed sink windows l := rfl
      rcases handle_cases (p.dressed sink windows l) now event with ⟨r, notFailure, rfl, -⟩ |
        ⟨-, handled⟩
      · simp [plain r rfl] at notFailure
      · rw [handled, endWindow, gathered, flushed]
        rfl

end Printer

/-! ## Sessions -/

/-- A session goes the same way in every layout, and what it has shown are windows of the records
that it has taken. -/
theorem Session.Run.dressed (s₀ : Session) {s : Session} {offered taken : List RawRecord}
    {sink : Sink} {l : Layout} (never : sink.NeverFails) (pending : sink.pending = [])
    (empty : s₀.printer.buffer = [])
    (run : Session.Run { s₀ with printer := s₀.printer.dressed sink [] l } offered taken s) :
    ∃ (q : Printer) (windows : ShownWindows), s.printer = q.dressed sink windows l ∧
      windows.records ++ q.buffer = taken.filter Printer.readable ∧ ∀ l' : Layout,
        Session.Run { s₀ with printer := s₀.printer.dressed sink [] l' } offered taken
          { s with printer := q.dressed sink windows l' } := by
  induction run with
  | start => exact ⟨s₀.printer, [], rfl, empty, fun l' => .start⟩
  | @works offered taken s event before going sees ih =>
    obtain ⟨q, windows, printer, kept, runs⟩ := ih
    obtain ⟨q', windows', kept', handled⟩ :=
      Printer.handle_dressed never pending q windows s.now event
    refine ⟨q', windows', ?_, ?_, fun l' => ?_⟩
    · rw [printer, handled]
    · rw [kept', kept, List.filter_append]
    · rw [printer] at going sees
      have after := (runs l').works going sees
      rwa [handled] at after
  | arrives before going opened r ih =>
    obtain ⟨q, windows, printer, kept, runs⟩ := ih
    rw [printer] at going
    exact ⟨q, windows, printer, kept, fun l' => (runs l').arrives going opened r⟩
  | cancels before ih =>
    obtain ⟨q, windows, printer, kept, runs⟩ := ih
    exact ⟨q, windows, printer, kept, fun l' => (runs l').cancels⟩
  | closes before ih =>
    obtain ⟨q, windows, printer, kept, runs⟩ := ih
    exact ⟨q, windows, printer, kept, fun l' => (runs l').closes⟩
  | timePasses before ms ih =>
    obtain ⟨q, windows, printer, kept, runs⟩ := ih
    exact ⟨q, windows, printer, kept, fun l' => (runs l').timePasses ms⟩

/-! ## What followers can do when more is printed -/

section More

variable {s : Surroundings} {printed : Nat}

theorem Errand.step?_of_more {α : Type} {e : Errand α} {next : Errand.Progress α}
    (more : e.awaitsOutput = false ∨ s.printed ≤ printed) (step : e.step? s = some next) :
    e.step? { s with printed } = some next := by
  unfold Errand.step? at step ⊢
  split at step
  · cases step
  · next due =>
    rw [if_neg due]
    split at step
    · exact step
    · exact step
    · exact step
    · next size rest delays =>
      split at step
      · next enough =>
        rcases more with free | more
        · simp [awaitsOutput, delays, Delay.awaitsOutput] at free
        · exact (if_pos (Nat.le_trans enough more)).trans step
      · cases step

theorem Courier.moves_of_more {service : String} {c : Courier} {move : After × Act}
    (more : c.awaitsOutput = false ∨ s.printed ≤ printed) (mem : move ∈ c.moves service s) :
    move ∈ c.moves service { s with printed } := by
  cases c with
  | opening e =>
    simp only [moves] at mem ⊢
    cases step : e.step? s with
    | none => simp [step] at mem
    | some next =>
      rw [step] at mem
      rwa [Errand.step?_of_more more step]
  | reading e rest =>
    simp only [moves] at mem ⊢
    cases step : e.step? s with
    | none => simp [step] at mem
    | some next =>
      rw [step] at mem
      rwa [Errand.step?_of_more more step]
  | between | sending => exact mem

end More

namespace World

variable {σ : Type} {p : Plan σ} {w w' : World σ} {i : Nat} {f : Follower} {q : Printer}

theorem perform_printer (q : Printer) (act : Act) :
    ({ w with printer := q } : World σ).perform i act =
      { w.perform i act with printer := q } := by
  cases act <;> rfl

theorem afterStream_printer (q : Printer) (result : Except CourierFault Unit) :
    ({ w with printer := q } : World σ).afterStream p i result =
      { w.afterStream p i result with printer := q } := by
  rcases result with (_ | _) | ⟨⟩
  · rfl
  · rfl
  · simp only [afterStream]
    split <;> rfl

theorem afterWait_printer (q : Printer) (ended : Instant) (result : Except WatchFault Unit) :
    ({ w with printer := q } : World σ).afterWait i ended result =
      { w.afterWait i ended result with printer := q } := by
  rcases result with (_ | _ | _) | ⟨⟩ <;> rfl

theorem only_move {v v' : World σ} (move : w' ∈ [v]) (same : { v with printer := q } = v') :
    { w' with printer := q } ∈ [v'] := by
  rw [List.mem_singleton] at move ⊢
  rw [move, same]

/-- What a follower can do it can do beside another printer, if that has printed no less or the
follower does not wait for output. -/
theorem followerMoves_of_more
    (more : f.awaitsOutput = false ∨ w.printer.sink.flushedSize ≤ q.sink.flushedSize)
    (move : w' ∈ w.followerMoves p i f) :
    { w' with printer := q } ∈ ({ w with printer := q } : World σ).followerMoves p i f := by
  have around : ({ w with printer := q } : World σ).surroundings p =
      { w.surroundings p with printed := q.sink.flushedSize } := rfl
  have offers : Courier.offers (({ w with printer := q } : World σ).surroundings p) =
      Courier.offers (w.surroundings p) := rfl
  have same : ({ w with printer := q } : World σ).cancelled = w.cancelled := rfl
  cases stage : f.stage with
  | gone => simp [followerMoves, stage] at move
  | ready =>
    simp only [followerMoves, stage] at move ⊢
    exact only_move move rfl
  | carrying c =>
    rw [Follower.awaitsOutput, stage] at more
    simp only [followerMoves, stage, List.mem_map, Prod.exists] at move ⊢
    obtain ⟨after, act, mem, rfl⟩ := move
    refine ⟨after, act, around ▸ Courier.moves_of_more more mem, ?_⟩
    rw [perform_printer]
    cases after with
    | going c' => rfl
    | done result => exact afterStream_printer q result
  | reporting fault =>
    simp only [followerMoves, stage, offers, List.mem_append] at move ⊢
    rcases move with taken | givenUp
    · left
      split at taken
      · next allowed =>
        rw [if_pos allowed]
        exact only_move taken rfl
      · cases taken
    · right
      split at givenUp
      · next allowed =>
        rw [if_pos allowed]
        exact only_move givenUp rfl
      · cases givenUp
  | settling wake ended =>
    simp only [followerMoves, stage, same] at move ⊢
    split at move
    · cases move
    · next due =>
      rw [if_neg due]
      split at move
      · next cancelled =>
        rw [if_pos cancelled]
        exact only_move move rfl
      · next calm =>
        rw [if_neg calm]
        exact only_move move rfl
  | awaiting e ended =>
    rw [Follower.awaitsOutput, stage] at more
    simp only [followerMoves, stage, same] at move ⊢
    split at move
    · next cancelled =>
      rw [if_pos cancelled]
      exact only_move move rfl
    · next calm =>
      rw [if_neg calm]
      cases step : e.step? (w.surroundings p) with
      | none => simp [step] at move
      | some next =>
        rw [step] at move
        rw [around, Errand.step?_of_more more step]
        cases next with
        | waits | cancels => exact only_move move rfl
        | returns result => exact only_move move (afterWait_printer q ended result).symm

/-- A run goes the same way in another layout if its lines are no shorter there, or if no follower
ever waits for output. What it has shown are windows of the records that the printer has taken. -/
theorem Reachable.dressed {w₀ : World σ} {sink : Sink} {l : Layout} (l' : Layout)
    (never : sink.NeverFails) (pending : sink.pending = [])
    (more : (∀ v, Reachable p { w₀ with printer := w₀.printer.dressed sink [] l } v →
        ∀ f ∈ v.followers, f.awaitsOutput = false) ∨
      ∀ e, (l.lineBytes e).length ≤ (l'.lineBytes e).length)
    (empty : w₀.printer.buffer = []) (queued : w₀.queued = w₀.queue)
    (reach : Reachable p { w₀ with printer := w₀.printer.dressed sink [] l } w) :
    ∃ (q : Printer) (windows : ShownWindows) (taken : List RawRecord),
      w.printer = q.dressed sink windows l ∧ w.queued = taken ++ w.queue ∧
        windows.records ++ q.buffer = taken.filter Printer.readable ∧
        Reachable p { w₀ with printer := w₀.printer.dressed sink [] l' }
          { w with printer := q.dressed sink windows l' } := by
  induction reach with
  | start => exact ⟨w₀.printer, [], [], rfl, queued, empty, .start⟩
  | @step w w' before step ih =>
    obtain ⟨q, windows, taken, printer, queued, kept, runs⟩ := ih
    have same : ({ w with printer := q.dressed sink windows l' } : World σ).isOver = w.isOver := by
      rw [isOver, isOver, printer]
      rfl
    cases step with
    | @follower _ i f going at_i move =>
      have more : f.awaitsOutput = false ∨
          w.printer.sink.flushedSize ≤ (q.dressed sink windows l').sink.flushedSize := by
        rw [printer]
        exact more.imp (fun free => free w before f (List.mem_of_getElem? at_i))
          fun longer => sink.flushedSize_showing_le longer q.follow windows
      obtain ⟨deeds, f', turn, moved⟩ := turn_of_mem at_i move
      refine ⟨q, windows, taken, moved.printer.trans printer, ?_, kept,
        runs.step (.follower (same.trans going) at_i (followerMoves_of_more more move))⟩
      rw [moved.queued, moved.queue, queued, List.append_assoc]
    | printer going move =>
      obtain ⟨event, sees, rfl⟩ := Option.map_eq_some_iff.1 move
      obtain ⟨q', windows', kept', handled⟩ :=
        Printer.handle_dressed never pending q windows w.now event
      refine ⟨q', windows', taken ++ event.taken, ?_, ?_, ?_,
        runs.step (.printer (same.trans going) ?_)⟩
      · rw [printer, handled]
      · rw [List.append_assoc, Printer.taken_append_leaves sees, ← queued]
        rfl
      · rw [kept', kept, List.filter_append]
      · rw [printer] at sees
        rw [← handled]
        exact Option.map_eq_some_iff.2 ⟨event, sees, rfl⟩
    | userCancels going =>
      exact ⟨q, windows, taken, printer, queued, kept,
        runs.step (.userCancels (same.trans going))⟩
    | timePasses going ms =>
      exact ⟨q, windows, taken, printer, queued, kept,
        runs.step (.timePasses (same.trans going) ms)⟩

end World

end Chronicle
