import Chronicle.Proofs.Failures
import Chronicle.Proofs.Tally
/-!
# Progress

A full queue makes followers wait for the printer, and an empty one makes the printer wait for
followers. They never wait for each other: a queue that is full holds a record that the printer can
take, and one that is empty has room for what a follower holds. So a run can always go on by itself
unless a follower waits for something outside it, and once all followers are gone the printer can
come to the end alone: `Reachable.never_stuck`.
-/

namespace Chronicle.World

variable {σ : Type} {p : Plan σ} {w : World σ} {i : Nat} {f : Follower}

/-- The follower waits for something outside the run that has not happened yet: a stream to be
opened, a read to return, the time to settle, or its container. It waits for its container only
until the run is cancelled. -/
def waitsOutside (p : Plan σ) (w : World σ) (f : Follower) : Bool :=
  match f.stage with
  | .carrying (.opening e) => (e.step? (w.surroundings p)).isNone
  | .carrying (.reading e _) => (e.step? (w.surroundings p)).isNone
  | .settling wake _ => w.now < wake
  | .awaiting e _ => !w.cancelled && (e.step? (w.surroundings p)).isNone
  | _ => false

/-! ## Who can move -/

/-- A printer at work only waits while nothing is queued and somebody may still queue something. -/
theorem printer_moves (reason : w.cancelled = true ∨ w.queue ≠ [] ∨
    w.followers.all (·.isGone) = true) : ∃ v, w.printerMove? = some v := by
  suffices ∃ event, w.printer.next w.now w.cancelled w.queue (w.followers.all (·.isGone)) =
      some event by
    obtain ⟨event, sees⟩ := this
    exact ⟨_, by rw [printerMove?, sees]; rfl⟩
  cases cancelled : w.cancelled with
  | true => exact ⟨_, Printer.next_cancelled ..⟩
  | false =>
    cases due : w.printer.deadline.any (· ≤ w.now) with
    | true => exact ⟨_, Printer.next_windowOver due ..⟩
    | false =>
      cases queue : w.queue with
      | cons r rest => exact ⟨_, Printer.next_received due ..⟩
      | nil =>
        -- Nobody is left who could queue anything.
        have gone : w.followers.all (·.isGone) = true := by simpa [cancelled, queue] using reason
        exact ⟨.closed, by simp [Printer.next, due, gone]⟩

/-- A follower that is not gone can move if it waits for nothing outside and there is room. -/
theorem follower_moves (inside : w.waitsOutside p f = false) (here : f.isGone = false)
    (room : w.queue.length < p.capacity) : ∃ v, v ∈ w.followerMoves p i f := by
  have queues {r : RawRecord} (held : r ∈ f.held) : ∃ v, v ∈ w.followerMoves p i f := by
    obtain ⟨v, mem, -⟩ := queuing_move (i := i) held room
    exact ⟨v, mem⟩
  cases stage : f.stage with
  | ready => exact List.exists_mem_of_ne_nil _ (by simp [followerMoves, stage])
  | reporting fault => exact queues (r := .failure f.service fault) (by simp [Follower.held, stage])
  | settling wake ended =>
    have due : ¬ w.now < wake := by simpa [waitsOutside, stage] using inside
    refine List.exists_mem_of_ne_nil _ ?_
    simp only [followerMoves, stage, due, if_false]
    split <;> simp
  | awaiting e ended =>
    refine List.exists_mem_of_ne_nil _ ?_
    simp only [followerMoves, stage]
    split
    · simp
    · split <;> simp_all [waitsOutside]
  | gone => simp [Follower.isGone, stage] at here
  | carrying c =>
    cases c with
    | opening e | reading e _ =>
      refine List.exists_mem_of_ne_nil _ ?_
      simp only [followerMoves, stage, Courier.moves, ne_eq, List.map_eq_nil_iff]
      split <;> simp_all [waitsOutside]
    | between script =>
      refine List.exists_mem_of_ne_nil _ ?_
      simp only [followerMoves, stage, Courier.moves, ne_eq, List.map_eq_nil_iff]
      split <;> simp
    | sending o receivedAt rest =>
      exact queues (r := Courier.recordOf f.service receivedAt o) (by simp [Follower.held, stage])

/-- The printer makes room for a follower that holds a record, unless the run is over before. -/
theorem makes_room {r : RawRecord} (slots : 0 < p.capacity) (at_i : w.followers[i]? = some f)
    (held : r ∈ f.held) :
    ∃ w', Works p w w' ∧ (w'.isOver = true ∨ ∃ u, Step p w' u ∧ u.queued = w'.queued ++ [r]) := by
  obtain ⟨w', works, done | empty⟩ := empties_queue (p := p) w
  · exact ⟨w', works, .inl done⟩
  · refine ⟨w', works, ?_⟩
    cases going : w'.isOver with
    | true => exact .inl rfl
    | false =>
      obtain ⟨u, step, -, queued⟩ :=
        queues_held (works.followers ▸ at_i) held going (by simpa [empty] using slots)
      exact .inr ⟨u, step, queued⟩

/-- When all followers are gone the printer comes to the end without anything else happening. -/
theorem ends_alone (gone : ∀ f ∈ w.followers, f.isGone = true) :
    ∃ w', Works p w w' ∧ w'.isOver = true := by
  obtain ⟨v, emptied, done | empty⟩ := empties_queue (p := p) w
  · exact ⟨v, emptied, done⟩
  cases going : v.isOver with
  | true => exact ⟨v, emptied, going⟩
  | false =>
    cases cancelled : v.cancelled with
    | true =>
      obtain ⟨u, move, -, ended⟩ := printerMove?_of_cancelled cancelled
      exact ⟨u, emptied.trans (works_of_move going move), ended⟩
    | false =>
      obtain ⟨u, first, same, done | ⟨going, calm, early⟩⟩ :=
        clears_deadline (p := p) going cancelled
      · exact ⟨u, emptied.trans first, done⟩
      · have closed : u.followers.all (·.isGone) = true := by
          rw [first.followers, emptied.followers]
          exact List.all_eq_true.2 gone
        have last := works_of_next (p := p) going .closed
          (by simp [Printer.next, calm, early, same, empty, closed])
        exact ⟨_, (emptied.trans first).trans last,
          by simp [isOver, Printer.handle, Printer.conclude]⟩

/-! ## No deadlock -/

theorem Reachable.has_slots {backend : σ} {printer : Printer} {perService : Nat}
    (slots : p.capacity = queueCapacity p.services.length perService)
    (reach : Reachable p (World.start p backend printer) w) (mem : f ∈ w.followers) :
    0 < p.capacity := by
  have served : 0 < p.services.length := reach.followers_length ▸ List.length_pos_of_mem mem
  rw [slots, queueCapacity]
  exact Nat.mul_pos served (by omega)

/-- A run that is not over, and in which no follower waits for something outside, can go on: the
printer or a follower can move. A follower that holds a record and finds the queue full leaves the
printer a record to take, and the printer alone can bring the run to where the record is queued, or
to its end. And when all followers are gone the printer alone can bring it to its end. -/
theorem Reachable.never_stuck {backend : σ} {printer : Printer} {perService : Nat}
    (slots : p.capacity = queueCapacity p.services.length perService)
    (reach : Reachable p (World.start p backend printer) w) (going : w.isOver = false) :
    ((∀ f ∈ w.followers, w.waitsOutside p f = false) → ∃ v, Step p w v ∧
      (w.printerMove? = some v ∨
        ∃ i f, w.followers[i]? = some f ∧ v ∈ w.followerMoves p i f)) ∧
    (∀ (i : Nat) (f : Follower), ∀ r ∈ f.held, w.followers[i]? = some f →
      (p.capacity ≤ w.queue.length → w.queue ≠ [] ∧ ∃ v, Step p w v ∧ w.printerMove? = some v) ∧
      ∃ w', Works p w w' ∧
        (w'.isOver = true ∨ ∃ u, Step p w' u ∧ u.queued = w'.queued ++ [r])) ∧
    ((∀ f ∈ w.followers, f.isGone = true) → ∃ w', Works p w w' ∧ w'.isOver = true) := by
  refine ⟨?_, ?_, ends_alone⟩
  · intro inside
    by_cases reason : w.cancelled = true ∨ w.queue ≠ [] ∨ w.followers.all (·.isGone) = true
    · obtain ⟨v, move⟩ := printer_moves reason
      exact ⟨v, .printer going move, .inl move⟩
    · -- Nothing is queued, so there is room for a follower that is still there.
      obtain ⟨-, empty, here⟩ : ¬ w.cancelled = true ∧ w.queue = [] ∧
          ∃ f ∈ w.followers, f.isGone = false := by simpa using reason
      obtain ⟨f, mem, here⟩ := here
      obtain ⟨i, at_i⟩ := List.getElem?_of_mem mem
      have room : w.queue.length < p.capacity := by simpa [empty] using reach.has_slots slots mem
      obtain ⟨v, move⟩ := follower_moves (i := i) (inside f mem) here room
      exact ⟨v, .follower going at_i move, .inr ⟨i, f, at_i, move⟩⟩
  · intro i f r held at_i
    have some_slots := reach.has_slots slots (List.mem_of_getElem? at_i)
    refine ⟨?_, makes_room some_slots at_i held⟩
    intro full
    have filled : w.queue ≠ [] := List.ne_nil_of_length_pos (by omega)
    obtain ⟨v, move⟩ := printer_moves (.inr (.inl filled))
    exact ⟨filled, v, .printer going move, move⟩

/-- Two services whose queue has a slot for each, of which one has a lot to say and the other cannot
be followed. -/
def crowded : Plan Playlist where
  backend := Playlist.backend
  services := ["web", "db"]
  follow := true
  settle := 500
  capacity := queueCapacity 2 0
  start := ⟨1700000000, 0⟩

def crowdedList : Playlist where
  streams := [("web", [{ result := some (.ok [{ result := some (.line "one") },
    { result := some (.line "two") }, { result := some (.line "three") },
    { result := some (.ended none) }]) }])]

/-- The queue is full, and both followers hold a record for it. -/
def jam : World Playlist := (start crowded crowdedList slow).moveFor crowded 12

theorem jam_reachable : Reachable crowded (start crowded crowdedList slow) jam :=
  reachable_moveFor 12 rfl

/-- The user cancels, and the followers give up what they hold and leave. -/
def deserted : World Playlist :=
  let stopped := World.moveFor crowded 2 { jam with userCancelled := true }
  World.moveFor crowded 1 { stopped with now := stopped.now + 500 }

theorem deserted_reachable : Reachable crowded (start crowded crowdedList slow) deserted := by
  have stopped := jam_reachable.step (.userCancels (by decide +kernel))
  have settled := (stopped.trans (reachable_moveFor 2 (by decide +kernel))).step
    (.timePasses (by decide +kernel) 500)
  exact settled.trans (reachable_moveFor 1 (by decide +kernel))

theorem crowded_is_never_stuck :
    (∃ v, Step crowded jam v ∧ (jam.printerMove? = some v ∨
      ∃ i f, jam.followers[i]? = some f ∧ v ∈ jam.followerMoves crowded i f)) ∧
    (∃ v, Step crowded jam v ∧ jam.printerMove? = some v) ∧
    (∃ w', Works crowded jam w' ∧ (w'.isOver = true ∨ ∃ u, Step crowded w' u ∧
      u.queued = w'.queued ++ [.data "web" "three" ⟨1700000000, 0⟩])) ∧
    ∃ w', Works crowded deserted w' ∧ w'.isOver = true := by
  obtain ⟨goes_on, sends, -⟩ := jam_reachable.never_stuck rfl (by decide +kernel)
  obtain ⟨-, -, ends⟩ := deserted_reachable.never_stuck rfl (by decide +kernel)
  have holds : jam.followers[0]?.any (.data "web" "three" ⟨1700000000, 0⟩ ∈ ·.held) = true := by
    decide +kernel
  obtain ⟨f, at_i, held⟩ := (Option.any_eq_true _ _).1 holds
  obtain ⟨blocked, room⟩ := sends 0 f _ (of_decide_eq_true held) at_i
  exact ⟨goes_on (by decide +kernel), (blocked (by decide +kernel)).2, room,
    ends (by decide +kernel)⟩

end Chronicle.World
