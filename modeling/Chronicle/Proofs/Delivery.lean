import Chronicle.Proofs.Queue
import Chronicle.Proofs.Schedule
import Mathlib.Data.List.Perm.Basic
/-!
# What is read is printed

In a run that the user does not cancel every follower gets each of its records onto the queue before
it stops being active, and the run ends only when none is active. So nothing that was read is lost
when the last follower stops and cancels the run: `Reachable.prints_all_that_was_read` says for runs
without failures that the lines printed are those that were read, and the notices.
-/

namespace Chronicle

/-! ## Readings -/

/-- A read that returned. -/
structure Reading where
  service : String
  time : Instant
  outcome : Outcome
deriving DecidableEq, Repr

namespace Reading

/-- The entry of a line. -/
def line? (r : Reading) : Option Entry :=
  match r.outcome with
  | .line text => some (Window.stamped r.service text r.time)
  | _ => none

/-- The entry of what followed the last newline of a stream that ended, unless that is empty. -/
def lastPiece? (r : Reading) : Option Entry :=
  match r.outcome with
  | .ended (some text) => if text = "" then none else some (Window.stamped r.service text r.time)
  | _ => none

/-- The notice of a stream that ended. -/
def exit? (r : Reading) : Option Entry :=
  match r.outcome with
  | .ended _ => some (Entry.exitNotice r.service r.time)
  | _ => none

/-- The entries of one reading. -/
def entries (follow : Bool) (r : Reading) : List Entry :=
  r.line?.toList ++ r.lastPiece?.toList ++ if follow then r.exit?.toList else []

/-- The entries of many readings are their lines, their last pieces and their exits. -/
theorem entries_perm (follow : Bool) (readings : List Reading) :
    (readings.flatMap (entries follow)).Perm
      (readings.filterMap line? ++ readings.filterMap lastPiece? ++
        if follow then readings.filterMap exit? else []) := by
  have exits : (readings.flatMap fun r => if follow then r.exit?.toList else []) =
      if follow then readings.filterMap exit? else [] := by
    cases follow
    · simp
    · simp [List.filterMap_eq_flatMap_toList]
  rw [← exits, List.filterMap_eq_flatMap_toList, List.filterMap_eq_flatMap_toList]
  refine .trans (List.flatMap_append_perm _ _ _).symm (.append_right _ ?_)
  exact (List.flatMap_append_perm _ _ _).symm

end Reading

variable {σ : Type} {p : Plan σ}

/-- The read that a note tells of. -/
def Plan.reading? (p : Plan σ) (n : Note) : Option Reading :=
  match p.services[n.follower]?, n.deed with
  | some service, .got outcome => some ⟨service, p.start.later n.time, outcome⟩
  | _, _ => none

/-- A stream could not be opened, or a read failed. -/
def Deed.fails : Deed → Bool
  | .notOpened _ | .got (.failed _) => true
  | _ => false

theorem Plan.record?_isFailure {n : Note} {r : RawRecord} (h : p.record? n = some r) :
    r.isFailure = n.deed.fails := by
  unfold Plan.record? at h
  split at h
  · next o _ deed =>
    obtain rfl := Option.some.inj h
    cases o <;> simp [deed, Deed.fails, Courier.recordOf, RawRecord.isFailure]
  · next deed =>
    obtain rfl := Option.some.inj h
    simp [deed, Deed.fails, RawRecord.isFailure]
  · cases h

theorem Reading.entriesOf_record (follow : Bool) (r : Reading) :
    Window.entriesOf follow (Courier.recordOf r.service r.time r.outcome) = r.entries follow := by
  obtain ⟨service, time, outcome⟩ := r
  cases outcome with
  | line text => simp [Courier.recordOf, Window.entriesOf, entries, line?, lastPiece?, exit?]
  | ended trailing =>
    cases trailing with
    | none => simp [Courier.recordOf, Window.entriesOf, entries, line?, lastPiece?, exit?]
    | some text =>
      by_cases empty : text = "" <;>
        simp [Courier.recordOf, Window.entriesOf, entries, line?, lastPiece?, exit?, empty]
  | failed fault => simp [Courier.recordOf, Window.entriesOf, entries, line?, lastPiece?, exit?]

/-- What was read has the entries of its records; a failure has none. -/
theorem Plan.entries_of_records (p : Plan σ) (follow : Bool) (notes : List Note) :
    (notes.filterMap p.record?).flatMap (Window.entriesOf follow) =
      (notes.filterMap p.reading?).flatMap (Reading.entries follow) := by
  have one : ∀ n, (p.record? n).toList.flatMap (Window.entriesOf follow) =
      (p.reading? n).toList.flatMap (Reading.entries follow) := by
    intro n
    unfold Plan.record? Plan.reading?
    split
    · next service o served deed => simp [served, deed, ← Reading.entriesOf_record]
    · next served deed => simp [served, deed, Window.entriesOf]
    · next other _ =>
      split
      · next served deed => exact absurd deed (other _ _ served)
      · rfl
  rw [List.filterMap_eq_flatMap_toList, List.filterMap_eq_flatMap_toList, List.flatMap_assoc,
    List.flatMap_assoc]
  exact congrArg (List.flatMap · notes) (funext one)

theorem filter_others {notes : List Note} {i k : Nat} (other : i ≠ k) :
    (notes.filter fun n => !decide (n.follower = k)).filter (·.follower = i) =
      notes.filter (·.follower = i) := by
  rw [List.filter_filter]
  apply List.filter_congr
  intro n _
  by_cases same : n.follower = i <;> simp [same, other]

/-- Lists of records drawn from the same notes agree up to order if they agree for each follower. -/
theorem perm_of_each {a b : Note → Option RawRecord} (notes : List Note)
    (each : ∀ i, (notes.filter (·.follower = i)).filterMap a =
      (notes.filter (·.follower = i)).filterMap b) :
    (notes.filterMap a).Perm (notes.filterMap b) := by
  induction h : notes.length using Nat.strongRecOn generalizing notes with
  | ind size ih =>
    cases notes with
    | nil => exact .refl _
    | cons n rest =>
      -- The notes of the first note's follower agree by assumption, the others are fewer.
      let mine := fun m : Note => decide (m.follower = n.follower)
      have others : (((n :: rest).filter fun m => !mine m).filterMap a).Perm
          (((n :: rest).filter fun m => !mine m).filterMap b) := by
        refine ih _ ?_ _ ?_ rfl
        · have : (rest.filter fun m => !mine m).length ≤ rest.length := List.length_filter_le _ _
          simp [mine] at this h ⊢
          omega
        · intro i
          by_cases same : i = n.follower
          · subst same
            simp [List.filter_filter, mine]
          · rw [filter_others same]
            exact each i
      have split := List.filter_append_perm mine (n :: rest)
      refine (split.symm.filterMap a).trans (.trans ?_ (split.filterMap b))
      rw [List.filterMap_append, List.filterMap_append]
      exact (each n.follower ▸ .refl _ : List.Perm _ _).append others

namespace World

variable {w : World σ} {backend : σ} {printer : Printer}

/-- The reads that returned, in order. -/
def readings (p : Plan σ) (w : World σ) : List Reading := w.journal.reverse.filterMap p.reading?

section Start

variable (served : p.services ≠ []) (reach : Reachable p (World.start p backend printer) w)
  (user : w.userCancelled = false)
include served reach user

theorem Reachable.read_of_queued {r : RawRecord} (mem : r ∈ w.queued) :
    ∃ n ∈ w.journal, p.record? n = some r := by
  obtain ⟨n, noted, queued⟩ := List.mem_filterMap.1 mem
  rw [List.mem_reverse] at noted
  have bound := reach.note_bound rfl n noted
  have balanced := reach.balance served user (List.getElem?_eq_getElem bound)
  have own : n ∈ w.notesOf n.follower := by simpa [notesOf] using noted
  have : r ∈ (w.notesOf n.follower).filterMap p.record? := by
    rw [balanced.records]
    exact List.mem_append_left _ (List.mem_filterMap.2 ⟨n, own, queued⟩)
  obtain ⟨m, own, record⟩ := List.mem_filterMap.1 this
  exact ⟨m, by simpa [notesOf] using (List.mem_filter.1 own).1, record⟩

theorem Reachable.all_queued (idle : ∀ f ∈ w.followers, f.isActive = false) :
    (w.journal.reverse.filterMap p.record?).Perm w.queued := by
  apply perm_of_each
  intro i
  cases at_i : w.followers[i]? with
  | some f =>
    have records := (reach.balance served user at_i).records
    have rests := held_of_idle (idle f (List.mem_of_getElem? at_i))
    rwa [rests, List.append_nil] at records
  | none =>
    have nothing : w.journal.reverse.filter (·.follower = i) = [] := by
      rw [List.filter_eq_nil_iff]
      intro n mem
      have := reach.note_bound rfl n (List.mem_reverse.1 mem)
      have := List.getElem?_eq_none_iff.1 at_i
      simp
      omega
    simp [nothing]

theorem Reachable.finished_of_calm (fresh : printer.Fresh) (done : w.isOver = true)
    (calm : ∀ n ∈ w.journal, n.deed.fails = false) : w.printer.verdict = some .finished := by
  obtain ⟨taken, kept⟩ := reach.kept fresh
  obtain ⟨v, verdict⟩ := Option.isSome_iff_exists.1 done
  obtain ⟨ends, -⟩ := kept.ended v verdict
  cases ends with
  | finished => exact verdict
  | @failed before after service fault split =>
    have mem : .failure service fault ∈ w.queued := by simp [kept.queue, split]
    obtain ⟨n, noted, record⟩ := reach.read_of_queued served user mem
    simpa [calm n noted, RawRecord.isFailure] using Plan.record?_isFailure record

end Start

/-- Since the start a run has printed what was read, and nothing else: the lines, what followed the
last newline of a stream, and when streams are followed a notice for each that ended. -/
def Delivered (p : Plan σ) (before : Printer) (w : World σ) : Prop :=
  ∃ entries : List Entry,
    entries.Perm ((w.readings p).filterMap Reading.line? ++
      (w.readings p).filterMap Reading.lastPiece? ++
      if p.follow then (w.readings p).filterMap Reading.exit? else []) ∧
    w.printer.sink.written = before.sink.written ++ entries.flatMap before.layout.lineBytes ∧
    w.printer.sink.pending = []

theorem Reachable.delivered (served : p.services ≠ []) (fresh : printer.Fresh)
    (reach : Reachable p (World.start p backend printer) w) (user : w.userCancelled = false)
    (finished : w.printer.verdict = some .finished) :
    Delivered p (World.start p backend printer).printer w := by
  obtain ⟨empty, idle⟩ := reach.finished served fresh user finished
  obtain ⟨taken, kept⟩ := reach.kept fresh
  obtain ⟨ends, nothing⟩ := kept.ended _ finished
  obtain ⟨windows, -, split, written⟩ := kept.windows (fresh_start fresh) nothing
  -- All that was queued is taken, and none of it is a failure.
  have all : windows.flatten = w.queued := by
    cases ends with
    | finished readable =>
      rw [split, Printer.filter_readable readable, kept.queue]
      simp [World.session, empty]
  refine ⟨windows.flatMap (Window.resolve · p.follow), ?_, ?_, kept.printed.pending⟩
  · refine (Printer.windows_perm p.follow windows).trans ?_
    rw [all]
    refine ((reach.all_queued served user idle).symm.flatMap_right _).trans ?_
    rw [Plan.entries_of_records]
    exact Reading.entries_perm p.follow (w.readings p)
  · exact written.trans (by rw [Printer.windows_bytes]; rfl)

/-- A run that is over, that the user did not cancel, and in which no stream failed, has finished
well, and it has printed what was read. -/
theorem Reachable.prints_all_that_was_read (served : p.services ≠ []) (fresh : printer.Fresh)
    (reach : Reachable p (World.start p backend printer) w) (user : w.userCancelled = false)
    (calm : ∀ n ∈ w.journal, n.deed.fails = false) (done : w.isOver = true) :
    w.printer.verdict = some .finished ∧
      Delivered p (World.start p backend printer).printer w := by
  have finished := reach.finished_of_calm served user fresh done calm
  exact ⟨finished, reach.delivered served fresh user finished⟩

/-- Two services. The container of one comes back while the stream of the other is still open. -/
def pair : Plan Playlist where
  backend := Playlist.backend
  services := ["web", "db"]
  follow := true
  settle := 500
  capacity := queueCapacity 2 1
  start := ⟨1700000000, 0⟩

/-- What the two services have to say. -/
def pairList : Playlist where
  streams :=
    [("web",
      [{ result := some (.ok [{ result := some (.line "one") },
          { result := some (.ended none) }]) },
        { result := some (.ok
          [{ delays := [.pause 10], result := some (.ended (some "two")) }]) }]),
      ("db",
        [{ result := some (.ok [{ delays := [.pause 2000], result := some (.ended none) }]) }])]
  restarts := [("web", [{ result := some (.ok ()) }])]

/-- A printer with a long window. -/
def slow : Printer := { layout := {}, window := 10000, follow := false }

theorem slow_fresh : slow.Fresh := ⟨⟨rfl, rfl⟩, rfl, rfl, rfl⟩

/-- The end of their run. -/
def pairEnd : World Playlist := (start pair pairList slow).runFor pair none 100000 31

theorem pairEnd_reachable : Reachable pair (start pair pairList slow) pairEnd :=
  reachable_runFor 31 _

theorem pairEnd_isOver : pairEnd.isOver = true :=
  over_of_cancelled 30 (by decide +kernel) (by decide +kernel)

theorem pair_is_delivered :
    pairEnd.readings pair = [⟨"web", ⟨1700000000, 0⟩, .line "one"⟩,
      ⟨"web", ⟨1700000000, 0⟩, .ended none⟩,
      ⟨"web", ⟨1700000000, 510000000⟩, .ended (some "two")⟩,
      ⟨"db", ⟨1700000002, 0⟩, .ended none⟩] ∧
    pairEnd.printer.verdict = some .finished ∧
    Delivered pair (start pair pairList slow).printer pairEnd :=
  ⟨by decide +kernel, pairEnd_reachable.prints_all_that_was_read (by decide) slow_fresh
    (by decide +kernel) (by decide +kernel) pairEnd_isOver⟩

end World

end Chronicle
