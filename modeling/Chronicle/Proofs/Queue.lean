import Chronicle.Proofs.Journal
import Chronicle.Proofs.Sessions
/-!
# The printer in a run

Seen from the printer, a run is a session: records arrive while the followers work, and it is
cancelled and closed at some time. So whatever holds of every session holds of the printer of every
run, and `Reachable.ending` says what a verdict means there.
-/

namespace Chronicle

namespace Session.Run

variable {s₀ s : Session} {offered taken : List RawRecord}

theorem arrive (before : Run s₀ offered taken s) (going : s.printer.verdict = none)
    (opened : s.closed = false) (more : List RawRecord) :
    Run s₀ (offered ++ more) taken { s with queue := s.queue ++ more } := by
  induction more generalizing offered s with
  | nil => simpa using before
  | cons r rest ih => simpa using ih (before.arrives going opened r) going opened

/-- A session may be cancelled and closed at any time, and stays so. -/
theorem mark (before : Run s₀ offered taken s) (cancelled closed : Bool)
    (cancels : s.cancelled = true → cancelled = true) (closes : s.closed = true → closed = true) :
    Run s₀ offered taken { s with cancelled, closed } := by
  obtain ⟨printer, capacity, now, queue, was, shut, refused⟩ := s
  cases was <;> cases cancelled <;> cases shut <;> cases closed <;> simp_all
  · exact before.closes
  · exact before.cancels
  · exact before.cancels.closes
  · exact before.cancels
  · exact before.closes

end Session.Run

namespace World

variable {σ : Type} {p : Plan σ} {w w' w₀ u v : World σ} {i : Nat} {f f' : Follower}
  {deeds : List Deed}

/-- The printer of a run and its queue, which is closed when all followers are gone. -/
def session (p : Plan σ) (w : World σ) : Session where
  printer := w.printer
  capacity := p.capacity
  now := w.now
  queue := w.queue
  cancelled := w.cancelled
  closed := w.followers.all (·.isGone)

/-- The records that were ever put on the queue, in order. -/
def queued (w : World σ) : List RawRecord := w.journal.reverse.filterMap Note.queued?

theorem Turn.not_gone (turn : Turn p w f deeds f') : f.isGone = false := by
  cases turn with
  | opens h | works h | misses h | reads h | sends h | ends h | breaks h | reports h | asks h
  | lingers h | resumes h | loses h => simp [Follower.isGone, h]
  | stops active => cases stage : f.stage <;> simp_all [Follower.isActive, Follower.isGone]
  | leaves waits => cases stage : f.stage <;> simp_all [Follower.isWaiting, Follower.isGone]

theorem Moved.queued (moved : Moved w i deeds f' w') :
    w'.queued = w.queued ++ deeds.filterMap Deed.record? := by
  simp [World.queued, moved.journal, List.filterMap_map, Function.comp_def, Note.queued?]

theorem Moved.cancelled (moved : Moved w i deeds f' w') (before : w.cancelled = true) :
    w'.cancelled = true := by
  have self := moved.selfCancelled
  have user := moved.userCancelled
  simp only [World.cancelled, Bool.or_eq_true] at before ⊢
  exact before.imp user fun done => by simp [self, done]

theorem Step.cancelled (step : Step p w w') (before : w.cancelled = true) :
    w'.cancelled = true := by
  rcases step.idle_or_turn with idle | ⟨_, _, _, _, -, -, moved⟩
  · simp only [World.cancelled, Bool.or_eq_true] at before ⊢
    exact before.imp idle.userCancelled fun self => idle.selfCancelled.trans self
  · exact moved.cancelled before

/-- A step of a run is at most a few steps of the session. -/
theorem Step.session {s₀ : Session} {taken : List RawRecord} (step : Step p w w')
    (before : Session.Run s₀ w.queued taken (w.session p)) :
    ∃ taken, Session.Run s₀ w'.queued taken (w'.session p) := by
  cases step with
  | @follower _ i f going at_i move =>
    obtain ⟨deeds, f', turn, moved⟩ := turn_of_mem at_i move
    have going : w.printer.verdict = none := by simpa [isOver] using going
    -- The follower is not gone, so the queue is still open for what it queues.
    have opened : (w.followers.all (·.isGone)) = false :=
      List.all_eq_false.2 ⟨f, List.mem_of_getElem? at_i, by simp [turn.not_gone]⟩
    refine ⟨taken, ?_⟩
    have after := (before.arrive going opened (deeds.filterMap Deed.record?)).mark
      w'.cancelled (w'.followers.all (·.isGone)) moved.cancelled (by simp [World.session, opened])
    rw [moved.queued]
    simpa [World.session, moved.printer, moved.now, moved.queue] using after
  | printer going move =>
    obtain ⟨event, sees, rfl⟩ := Option.map_eq_some_iff.1 move
    have going : w.printer.verdict = none := by simpa [isOver] using going
    exact ⟨_, before.works going sees⟩
  | userCancels going => exact ⟨taken, before.cancels⟩
  | timePasses going ms => exact ⟨taken, before.timePasses ms⟩

theorem Reachable.session (reach : Reachable p w₀ w) (empty : w₀.queue = w₀.queued) :
    ∃ taken, Session.Run (w₀.session p) w.queued taken (w.session p) := by
  induction reach with
  | start => exact ⟨[], empty ▸ Session.Run.start⟩
  | step _ step ih =>
    obtain ⟨taken, run⟩ := ih
    exact step.session run

/-! ## The printer alone -/

/-- From one state to another only the printer moves, and no time passes. -/
structure Works (p : Plan σ) (w w' : World σ) : Prop where
  reach : Reachable p w w'
  now : w'.now = w.now
  followers : w'.followers = w.followers
  journal : w'.journal = w.journal
  userCancelled : w'.userCancelled = w.userCancelled

theorem Works.refl (w : World σ) : Works p w w := ⟨.start, rfl, rfl, rfl, rfl⟩

theorem Works.trans (first : Works p u v) (second : Works p v w) : Works p u w where
  reach := first.reach.trans second.reach
  now := second.now.trans first.now
  followers := second.followers.trans first.followers
  journal := second.journal.trans first.journal
  userCancelled := second.userCancelled.trans first.userCancelled

theorem Works.queued (works : Works p w w') : w'.queued = w.queued := by
  rw [World.queued, works.journal, World.queued]

theorem works_of_move (going : w.isOver = false) (move : w.printerMove? = some w') :
    Works p w w' := by
  obtain ⟨event, -, rfl⟩ := Option.map_eq_some_iff.1 move
  exact ⟨Reachable.start.step (.printer going move), rfl, rfl, rfl, rfl⟩

theorem works_of_next (going : w.isOver = false) (event : Printer.Event)
    (sees : w.printer.next w.now w.cancelled w.queue (w.followers.all (·.isGone)) = some event) :
    Works p w { w with
      printer := w.printer.handle w.now event, queue := event.leaves w.queue } :=
  works_of_move going (by simp [printerMove?, sees])

/-- A printer at work can come to where no deadline is in the way of what is queued, unless the run
is over before. -/
theorem clears_deadline (going : w.isOver = false) (calm : w.cancelled = false) :
    ∃ v, Works p w v ∧ v.queue = w.queue ∧ (v.isOver = true ∨ v.isOver = false ∧
      v.cancelled = false ∧ v.printer.deadline.any (· ≤ v.now) = false) := by
  cases due : w.printer.deadline.any (· ≤ w.now) with
  | false => exact ⟨w, .refl w, rfl, .inr ⟨going, calm, due⟩⟩
  | true =>
    have works := works_of_next (p := p) going .windowOver
      (by rw [calm, Printer.next_windowOver due])
    refine ⟨_, works, rfl, ?_⟩
    generalize flushed : ({ w with
      printer := w.printer.handle w.now .windowOver
      queue := Printer.Event.leaves w.queue .windowOver } : World σ) = v
    cases done : v.isOver with
    | true => exact .inl rfl
    | false =>
      subst flushed
      exact .inr ⟨rfl, calm, by simp [Printer.handle, Printer.flush_deadline]⟩

/-- A printer at work takes a record from the queue, unless the run is over before. -/
theorem takes_record (going : w.isOver = false) (filled : w.queue ≠ []) :
    ∃ w', Works p w w' ∧ (w'.isOver = true ∨ w'.queue.length < w.queue.length) := by
  obtain ⟨r, rest, queue⟩ := List.exists_cons_of_ne_nil filled
  cases cancelled : w.cancelled with
  | true =>
    have works := works_of_next (p := p) going (.cancelled w.queue)
      (by rw [cancelled, Printer.next_cancelled])
    exact ⟨_, works, .inr (by simp [Printer.Event.leaves, queue])⟩
  | false =>
    obtain ⟨v, first, same, done | ⟨going, calm, early⟩⟩ :=
      clears_deadline (p := p) going cancelled
    · exact ⟨v, first, .inl done⟩
    · have second := works_of_next (p := p) going (.received r)
        (by rw [calm, same, queue, Printer.next_received early])
      exact ⟨_, first.trans second, .inr (by simp [Printer.Event.leaves, same, queue])⟩

/-- A printer left to work empties the queue, unless the run is over before. -/
theorem empties_queue (w : World σ) :
    ∃ w', Works p w w' ∧ (w'.isOver = true ∨ w'.queue = []) := by
  induction size : w.queue.length using Nat.strongRecOn generalizing w with
  | ind size ih =>
    cases going : w.isOver with
    | true => exact ⟨w, .refl w, .inl going⟩
    | false =>
      by_cases empty : w.queue = []
      · exact ⟨w, .refl w, .inr empty⟩
      · -- Each record taken makes the queue shorter.
        obtain ⟨v, works, done | shorter⟩ := takes_record (p := p) going empty
        · exact ⟨v, works, .inl done⟩
        · obtain ⟨u, rest, done⟩ := ih _ (size ▸ shorter) v rfl
          exact ⟨u, works.trans rest, done⟩

/-! ## Runs from the start -/

section Start

variable {backend : σ} {printer : Printer}

theorem fresh_start (fresh : printer.Fresh) :
    ((World.start p backend printer).session p).printer.Fresh :=
  ⟨fresh.sink, fresh.pending, fresh.buffer, fresh.verdict⟩

theorem Reachable.kept (fresh : printer.Fresh)
    (reach : Reachable p (World.start p backend printer) w) :
    ∃ taken,
      Session.Kept ((World.start p backend printer).session p) w.queued taken (w.session p) := by
  obtain ⟨taken, run⟩ := reach.session rfl
  exact ⟨taken, run.kept (fresh_start fresh)⟩

/-- A run that the user did not cancel can only finish when no follower is active, and then nothing
is queued. -/
theorem Reachable.finished (served : p.services ≠ []) (fresh : printer.Fresh)
    (reach : Reachable p (World.start p backend printer) w) (user : w.userCancelled = false)
    (done : w.printer.verdict = some .finished) :
    w.queue = [] ∧ ∀ f ∈ w.followers, f.isActive = false := by
  obtain ⟨taken, kept⟩ := reach.kept fresh
  obtain ⟨empty, cause⟩ := kept.finished done
  refine ⟨empty, ?_⟩
  intro f mem
  rcases cause with cancelled | closed
  · -- The user did not cancel, so the run did, and the count was zero.
    have counted := (counted_start served backend printer).reachable reach
    have self : w.selfCancelled = true := by
      simpa [World.session, World.cancelled, user] using cancelled
    exact counted.inactive (counted.stopped.1 self) mem
  · have gone := List.all_eq_true.1 closed f mem
    cases stage : f.stage <;> simp_all [Follower.isGone, Follower.isActive]

end Start

end World

end Chronicle
