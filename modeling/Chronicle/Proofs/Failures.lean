import Chronicle.Proofs.Delivery
/-!
# A failure is told

A stream that fails holds its follower active until the record of the failure is on the queue, so
the run cannot finish without the printer seeing it. `Reachable.tells_first_failure` says what a run
with a failure comes to: it can always come to an end, and it ends with the first failure that was
queued, after everything queued before that is printed.
-/

namespace Chronicle.World

variable {σ : Type} {p : Plan σ} {w w' : World σ} {i : Nat} {f : Follower}

/-! ## The record of a failure -/

/-- A follower can queue the record that it holds if there is room for it. -/
theorem queuing_move {r : RawRecord} (held : r ∈ f.held) (room : w.queue.length < p.capacity) :
    ∃ w' ∈ w.followerMoves p i f,
      w'.userCancelled = w.userCancelled ∧ w'.queued = w.queued ++ [r] := by
  cases stage : f.stage with
  | ready | settling _ _ | awaiting _ _ | gone => simp [Follower.held, stage] at held
  | reporting fault =>
    obtain rfl : r = .failure f.service fault := by simpa [Follower.held, stage] using held
    refine ⟨(w.perform i (.queue (.failure f.service fault))).leave i, ?_, rfl, ?_⟩
    · simp [followerMoves, stage, Courier.offers, surroundings, room]
    · simp [World.queued, leave, setStage, release, note, perform, Note.queued?, Deed.record?]
  | carrying c =>
    cases c with
    | opening _ | between _ | reading _ _ => simp [Follower.held, stage] at held
    | sending o receivedAt rest =>
      obtain rfl : r = Courier.recordOf f.service receivedAt o := by
        simpa [Follower.held, stage] using held
      simp only [followerMoves, stage, Courier.moves, Courier.offers, surroundings,
        Bool.false_eq_true, if_false, room, decide_true, if_true, List.mem_map]
      refine ⟨_, ⟨(Courier.accepted rest o, .queue (Courier.recordOf f.service receivedAt o)),
        by simp, rfl⟩, ?_⟩
      cases o <;> by_cases follow : p.follow = true <;>
        simp [Courier.accepted, World.queued, afterStream, leave, setStage, release, note,
          perform, Note.queued?, Deed.record?, follow]

theorem queues_held {r : RawRecord} (at_i : w.followers[i]? = some f) (held : r ∈ f.held)
    (going : w.isOver = false) (room : w.queue.length < p.capacity) :
    ∃ w', Step p w w' ∧ w'.userCancelled = w.userCancelled ∧ w'.queued = w.queued ++ [r] := by
  obtain ⟨w', mem, user, queued⟩ := queuing_move (i := i) held room
  exact ⟨w', .follower going at_i mem, user, queued⟩

section Start

variable {backend : σ} {printer : Printer}

/-- A failure that is queued is never passed over: a run with one goes on only while it is still in
the queue. -/
theorem Reachable.over_of_failure {r : RawRecord} (fresh : printer.Fresh)
    (reach : Reachable p (World.start p backend printer) w) (mem : r ∈ w.queued)
    (failure : r.isFailure = true) (empty : w.queue = []) : w.isOver = true := by
  obtain ⟨taken, kept⟩ := reach.kept fresh
  have taken_all : r ∈ taken := by simpa [kept.queue, World.session, empty] using mem
  cases verdict : w.printer.verdict with
  | none => simp [kept.going verdict r taken_all] at failure
  | some v => simp [isOver, verdict]

theorem Reachable.ends_of_queued {r : RawRecord} (fresh : printer.Fresh)
    (reach : Reachable p (World.start p backend printer) w) (mem : r ∈ w.queued)
    (failure : r.isFailure = true) :
    ∃ w', Works p w w' ∧ w'.isOver = true := by
  obtain ⟨v, works, done | empty⟩ := empties_queue (p := p) w
  · exact ⟨v, works, done⟩
  · have := (reach.trans works.reach).over_of_failure fresh (works.queued ▸ mem) failure empty
    exact ⟨v, works, this⟩

/-- What failed is queued, or its follower still holds the record. -/
theorem Reachable.queued_or_held {n : Note} (served : p.services ≠ [])
    (reach : Reachable p (World.start p backend printer) w) (user : w.userCancelled = false)
    (noted : n ∈ w.journal) (fails : n.deed.fails = true) :
    ∃ r, r.isFailure = true ∧ p.record? n = some r ∧ (r ∈ w.queued ∨
      ∃ f, w.followers[n.follower]? = some f ∧ r ∈ f.held) := by
  have bound := reach.note_bound rfl n noted
  have at_n := List.getElem?_eq_getElem bound
  have balanced := reach.balance served user at_n
  have own : n ∈ w.notesOf n.follower := by simpa [notesOf] using noted
  obtain ⟨r, record⟩ : ∃ r, p.record? n = some r := by
    cases deed : n.deed <;> simp_all [Deed.fails, Plan.record?, balanced.served]
  have mem : r ∈ (w.notesOf n.follower).filterMap p.record? :=
    List.mem_filterMap.2 ⟨n, own, record⟩
  rw [balanced.records, List.mem_append] at mem
  refine ⟨r, (Plan.record?_isFailure record).trans fails, record, ?_⟩
  rcases mem with queued | held
  · obtain ⟨m, own, queued⟩ := List.mem_filterMap.1 queued
    exact .inl (List.mem_filterMap.2 ⟨m, (List.mem_filter.1 own).1, queued⟩)
  · exact .inr ⟨_, at_n, held⟩

/-- A run with a failure does not finish before its record is queued and seen by the printer. -/
theorem Reachable.not_finished {n : Note} (served : p.services ≠ []) (fresh : printer.Fresh)
    (reach : Reachable p (World.start p backend printer) w) (user : w.userCancelled = false)
    (noted : n ∈ w.journal) (fails : n.deed.fails = true) :
    w.printer.verdict ≠ some .finished := by
  intro finished
  obtain ⟨empty, idle⟩ := reach.finished served fresh user finished
  obtain ⟨taken, kept⟩ := reach.kept fresh
  obtain ⟨r, failure, -, queued | ⟨f, at_n, held⟩⟩ :=
    reach.queued_or_held served user noted fails
  · obtain ⟨ends, -⟩ := kept.ended _ finished
    have : r ∈ taken := by simpa [kept.queue, World.session, empty] using queued
    cases ends with
    | finished readable => simp [readable r this] at failure
  · simp [held_of_idle (idle f (List.mem_of_getElem? at_n))] at held

/-- The end of a run with a failure can be reached from wherever the run is. -/
theorem Reachable.can_end {n : Note} (served : p.services ≠ []) (fresh : printer.Fresh)
    (slots : 0 < p.capacity) (reach : Reachable p (World.start p backend printer) w)
    (user : w.userCancelled = false) (noted : n ∈ w.journal) (fails : n.deed.fails = true) :
    ∃ w', Reachable p w w' ∧ w'.userCancelled = false ∧ w'.isOver = true := by
  -- First the printer empties the queue.
  obtain ⟨v, works, done | empty⟩ := empties_queue (p := p) w
  · exact ⟨v, works.reach, works.userCancelled.trans user, done⟩
  have reach_v := reach.trans works.reach
  have user_v := works.userCancelled.trans user
  cases going : v.isOver with
  | true => exact ⟨v, works.reach, user_v, going⟩
  | false =>
    obtain ⟨r, failure, -, queued | ⟨f, at_n, held⟩⟩ :=
      reach_v.queued_or_held served user_v (works.journal ▸ noted) fails
    · rw [reach_v.over_of_failure fresh queued failure empty] at going
      cases going
    · -- The failure is still held, and there is room for it now.
      obtain ⟨u, step, same, queued⟩ := queues_held at_n held going (by simpa [empty] using slots)
      obtain ⟨x, rest, done⟩ :=
        (reach_v.step step).ends_of_queued fresh (by simp [queued]) failure
      exact ⟨x, (works.reach.step step).trans rest.reach,
        rest.userCancelled.trans (same.trans user_v), done⟩

end Start

/-- In a run that the user does not cancel and in which a stream could not be opened or a read
failed, the end can be reached from wherever the run is. At the end the run tells the service and
the fault of the first failure that was queued, and everything that was queued before that failure
has been printed: it is in windows that were written, and the line of each entry that it has to show
is among what was written. -/
theorem Reachable.tells_first_failure {backend : σ} {printer : Printer} {perService : Nat}
    (served : p.services ≠ []) (slots : p.capacity = queueCapacity p.services.length perService)
    (fresh : printer.Fresh) (reach : Reachable p (World.start p backend printer) w)
    (user : w.userCancelled = false) (failed : ∃ n ∈ w.journal, n.deed.fails = true) :
    (∃ w', Reachable p w w' ∧ w'.userCancelled = false ∧ w'.isOver = true) ∧
    (w.isOver = true → ∃ before after service fault,
      w.queued = before ++ .failure service fault :: after ∧
      (∀ r ∈ before, r.isFailure = false) ∧
      (∃ n ∈ w.journal, p.record? n = some (.failure service fault)) ∧
      w.printer.verdict = some (.readFailed service fault) ∧
      (World.start p backend printer).printer.Shows before w.printer.sink.written ∧
      ∃ windows : List (List RawRecord), before <+: windows.flatten ∧
        w.printer.sink.written = printer.sink.written ++
          (windows.map (World.start p backend printer).printer.windowBytes).flatten ∧
        w.printer.sink.pending = []) := by
  obtain ⟨n, noted, fails⟩ := failed
  refine ⟨reach.can_end served fresh ?_ user noted fails, ?_⟩
  · have : 0 < p.services.length := List.length_pos_iff.2 served
    rw [slots, queueCapacity]
    exact Nat.mul_pos this (by omega)
  · intro done
    obtain ⟨v, verdict⟩ := Option.isSome_iff_exists.1 done
    obtain ⟨taken, kept⟩ := reach.kept fresh
    obtain ⟨ends, nothing⟩ := kept.ended v verdict
    obtain ⟨windows, -, split, written⟩ := kept.windows (fresh_start fresh) nothing
    have shown := kept.shows (fresh_start fresh) nothing
    cases ends with
    | finished => exact absurd verdict (reach.not_finished served fresh user noted fails)
    | @failed before after service fault cut first =>
      have queued : w.queued = before ++ .failure service fault :: (after ++ w.queue) := by
        simp [kept.queue, cut, World.session]
      refine ⟨before, after ++ w.queue, service, fault, queued, first,
        reach.read_of_queued served user (by simp [queued]), verdict,
        shown.of_subset (by simp [cut]), windows, ?_, written, kept.printed.pending⟩
      rw [split, cut, List.filter_append, Printer.filter_readable first]
      exact List.prefix_append _ _

/-- A service whose stream breaks while it is followed. -/
def broken : Plan Playlist where
  backend := Playlist.backend
  services := ["web"]
  follow := true
  settle := 500
  capacity := queueCapacity 1 0
  start := ⟨1700000000, 0⟩

/-- A line and then a failure. -/
def brokenList : Playlist where
  streams := [("web", [{ result := some (.ok [{ result := some (.line "one") },
    { result := some (.failed (.other "reset")) }]) }])]

/-- The last follower queues its failure, and by leaving it cancels the run before the printer has
seen the record. -/
def brokenEnd : World Playlist := (start broken brokenList slow).runFor broken none 100000 10

theorem broken_is_told :
    brokenEnd.queued = [.data "web" "one" ⟨1700000000, 0⟩, .failure "web" (.other "reset")] ∧
      brokenEnd.printer.verdict = some (.readFailed "web" (.other "reset")) ∧
      ∃ windows : List (List RawRecord),
        [.data "web" "one" ⟨1700000000, 0⟩] <+: windows.flatten ∧
        brokenEnd.printer.sink.written =
          (windows.map (start broken brokenList slow).printer.windowBytes).flatten := by
  have done : brokenEnd.isOver = true :=
    over_of_cancelled 9 (by decide +kernel) (by decide +kernel)
  have reach : Reachable broken (start broken brokenList slow) brokenEnd := reachable_runFor 10 _
  obtain ⟨before, after, service, fault, queued, first, -, verdict, -, windows, printed, written,
      -⟩ :=
    (reach.tells_first_failure (by decide) rfl slow_fresh (by decide +kernel)
      ⟨⟨0, 0, .got (.failed (.other "reset"))⟩, by decide +kernel, rfl⟩).2 done
  have all : brokenEnd.queued =
      [.data "web" "one" ⟨1700000000, 0⟩, .failure "web" (.other "reset")] := by decide +kernel
  refine ⟨all, ?_⟩
  -- The only failure among the two records is the second.
  rw [all] at queued
  obtain _ | ⟨r, _ | ⟨r', before⟩⟩ := before
  · simp at queued
  · simp only [List.cons_append, List.nil_append, List.cons.injEq, RawRecord.failure.injEq]
      at queued
    obtain ⟨rfl, ⟨rfl, rfl⟩, -⟩ := queued
    exact ⟨verdict, windows, printed, written⟩
  · simp only [List.cons_append, List.cons.injEq] at queued
    simp [← queued.2.1, RawRecord.isFailure] at first

end Chronicle.World
