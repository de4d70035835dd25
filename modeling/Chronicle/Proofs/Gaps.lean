import Chronicle.Proofs.Rounds
import Chronicle.Proofs.Scripts
/-!
# Gaps between streams

A follower whose container runs again asks for what was written since its last stream ended. The
instant it asks from is that at which it stopped being active, and it stops only once the record of
the end is queued. Until then a full queue makes it wait, and what the container writes while it
waits is not asked for: `Reachable.reopens_since_queued`.
-/

namespace Chronicle

theorem Instant.later_le_later_iff (i : Instant) {a b : Nat} : i.later a ≤ i.later b ↔ a ≤ b := by
  refine ⟨?_, i.later_le_later⟩
  simp only [Instant.le_iff, Instant.later, nanosPerSecond]
  omega

namespace World

variable {σ : Type} {p : Plan σ} {w : World σ} {i : Nat} {f f' : Follower} {deeds : List Deed}
  {notes : List Note} {service : String} {ended : Instant}

/-- The last notes of a stream that was carried to its end: the end was read, the record of that
queued, and the follower stopped being active. -/
inductive Closed (p : Plan σ) (i : Nat) (service : String) : List Note → Instant → Prop where
  | seam (past : List Note) (trailing : Option String) (read queued : Nat) :
      Closed p i service
        (past ++ [⟨i, read, .got (.ended trailing)⟩,
          ⟨i, queued, .queued (.terminal service trailing (p.start.later read))⟩,
          ⟨i, queued, .released⟩])
        (p.start.later queued)

/-- What the notes of a follower end with once it has read the end of its stream. -/
def Closing (p : Plan σ) (i : Nat) (notes : List Note) (f : Follower) : Prop :=
  match f.stage with
  | .carrying (.sending (.ended trailing) receivedAt _) =>
    ∃ past read, receivedAt = p.start.later read ∧
      notes = past ++ [⟨i, read, .got (.ended trailing)⟩]
  | .settling _ ended => Closed p i f.service notes ended
  | .awaiting _ ended =>
    ∃ before asked, notes = before ++ [⟨i, asked, .awaited⟩] ∧ Closed p i f.service before ended
  | _ => True

theorem Closed.of_released {stream : List Note} {queued : Nat}
    (closed : Closed p i service (stream ++ [⟨i, queued, .released⟩]) ended) :
    ∃ past trailing read, stream = past ++ [⟨i, read, .got (.ended trailing)⟩,
      ⟨i, queued, .queued (.terminal service trailing (p.start.later read))⟩] := by
  generalize notes : stream ++ [⟨i, queued, .released⟩] = all at closed
  cases closed with
  | seam past trailing read time =>
    have apart := notes.trans (List.append_assoc past [_, _] [_]).symm
    obtain ⟨rfl, last⟩ := List.append_inj' apart rfl
    obtain ⟨rfl⟩ : queued = time := by simpa using last
    exact ⟨past, trailing, read, rfl⟩

theorem Closed.restStage (closed : Closed p i f.service notes (p.start.later w.now)) :
    Closing p i notes { f with stage := restStage p w } := by
  by_cases follow : p.follow = true
  · simpa [Closing, World.restStage, follow] using closed
  · simp [Closing, World.restStage, follow]

/-- In a run that is not cancelled a follower settles only after it has queued the end. -/
theorem Closing.turn (h : Closing p i notes f) (turn : Turn p w f deeds f')
    (calm : w.cancelled = false) : Closing p i (notes ++ w.notesAt i deeds) f' := by
  cases turn with
  | works at_work quiet => cases quiet <;> simp [Closing]
  | @reads _ _ o =>
    cases o with
    | ended trailing => exact ⟨notes, w.now, rfl, rfl⟩
    | line _ | failed _ => trivial
  | @ends trailing receivedAt rest at_work =>
    simp only [Closing, at_work] at h
    obtain ⟨past, read, rfl, rfl⟩ := h
    have closed : Closed p i f.service _ _ := .seam past trailing read w.now
    refine Closed.restStage ?_
    simpa [notesAt] using closed
  | stops _ cancelled => simp [calm] at cancelled
  | asks settled =>
    simp only [Closing, settled] at h
    exact ⟨notes, w.now, rfl, h⟩
  | lingers waits => simpa [Closing, waits, notesAt] using h
  | opens | misses | sends | breaks | reports | leaves | resumes | loses => trivial

section Start

variable {backend : σ} {printer : Printer}

theorem Reachable.closing (reach : Reachable p (World.start p backend printer) w)
    (calm : w.cancelled = false) (at_i : w.followers[i]? = some f) :
    Closing p i (w.notesOf i) f := by
  refine Reachable.each_follower (Q := fun v => v.cancelled = false) (P := Closing p) ?_ ?_ ?_
    reach calm at_i
  · intro v v' step calm
    cases cancelled : v.cancelled with
    | false => rfl
    | true => simp [step.cancelled cancelled] at calm
  · intro i f at_i
    rw [(follower_at_start at_i).2]
    trivial
  · intro v i f deeds f' _ calm _ closing turn
    exact closing.turn turn calm

/-- Before each wait for a container a stream was carried to its end. -/
theorem Reachable.closed_before_awaited {before after : List Note} {n : Note}
    (reach : Reachable p (World.start p backend printer) w) (at_i : w.followers[i]? = some f)
    (split : w.notesOf i = before ++ n :: after) (awaits : n.deed = .awaited) :
    ∃ ended, Closed p i f.service before ended := by
  refine Reachable.each_follower (Q := fun _ => True) (P := fun i notes f =>
    ∀ before n after, notes = before ++ n :: after → n.deed = .awaited →
      ∃ ended, Closed p i f.service before ended) (fun _ _ => trivial) ?_ ?_ reach trivial at_i
      before n after split awaits
  · intro i f _ before n after split
    simp [notesOf, World.start] at split
  · intro v i f deeds f' reached _ at_i closed turn
    rw [turn.service]
    refine forall_splits_append closed ?_
    intro before n after new awaits
    have mem : n ∈ v.notesAt i deeds := by simp [new]
    obtain ⟨d, did, rfl⟩ := List.mem_map.1 mem
    -- Only one turn notes a wait, and it notes nothing else.
    obtain rfl : d = .awaited := awaits
    cases turn with
    | @asks wake ended settled due calm =>
      have closing := reached.closing calm at_i
      simp only [Closing, settled] at closing
      obtain ⟨rfl, -⟩ : before = [] ∧ _ := by
        simpa [notesAt, List.cons_eq_append_iff] using new
      exact ⟨ended, by rwa [List.append_nil]⟩
    | loses => split at did <;> simp at did
    | opens | works | misses | reads | sends | ends | breaks | reports | stops | lingers | leaves
    | resumes => simp at did

/-- A stream that is opened again is asked for what was written since the record of the last end was
queued. That is no earlier than the end was read, and what is left out is what was written between
the two: nothing exactly if the record was queued at the very time at which the end was read. -/
theorem Reachable.reopens_since_queued {before after : List Note} {n : Note}
    {options : StreamOptions} {since : Instant}
    (reach : Reachable p (World.start p backend printer) w) (at_i : w.followers[i]? = some f)
    (split : w.notesOf i = before ++ n :: after) (opens : n.deed = .opened options)
    (asked : options.since = some since) :
    ∃ past trailing read queued waited back,
      before = past ++ [⟨i, read, .got (.ended trailing)⟩,
        ⟨i, queued, .queued (.terminal f.service trailing (p.start.later read))⟩,
        ⟨i, queued, .released⟩, ⟨i, waited, .awaited⟩, ⟨i, back, .acquired⟩] ∧
      since = p.start.later queued ∧ read ≤ queued ∧
      (∀ t, since ≤ p.start.later t ↔ queued ≤ t) ∧
      (since ≤ p.start.later read ↔ queued = read) := by
  -- What comes before is whole rounds, and so ends with a wait.
  have next := (reach.place at_i).2 before n after split (by rw [opens]; rfl)
  rw [opens] at next
  cases next with
  | opened rounds =>
    obtain ⟨stream, queued, waited, back, rfl, rfl⟩ := rounds.since asked
    have waits : w.notesOf i = (stream ++ [⟨i, queued, .released⟩]) ++
        ⟨i, waited, .awaited⟩ :: ⟨i, back, .acquired⟩ :: n :: after := by simpa using split
    obtain ⟨ended, closed⟩ := reach.closed_before_awaited at_i waits rfl
    obtain ⟨past, trailing, read, rfl⟩ := closed.of_released
    have ordered : read ≤ queued := by
      have times := reach.notes_ordered rfl (i := i)
      rw [split] at times
      simp only [List.append_assoc, List.cons_append, List.nil_append] at times
      have stream := (List.pairwise_append.1 times).2.1
      exact List.rel_of_pairwise_cons stream List.mem_cons_self
    refine ⟨past, trailing, read, queued, waited, back, by simp, rfl, ordered,
      fun t => p.start.later_le_later_iff, ?_⟩
    rw [p.start.later_le_later_iff]
    omega

end Start

theorem pair_reopens_since_queued :
    pairEnd.notesOf 0 = (pairEnd.notesOf 0).take 8 ++
      ⟨0, 500, .opened (.after ⟨1700000000, 0⟩)⟩ :: (pairEnd.notesOf 0).drop 9 ∧
    ∃ past trailing read queued waited back,
      (pairEnd.notesOf 0).take 8 = past ++ [⟨0, read, .got (.ended trailing)⟩,
        ⟨0, queued, .queued (.terminal "web" trailing (pair.start.later read))⟩,
        ⟨0, queued, .released⟩, ⟨0, waited, .awaited⟩, ⟨0, back, .acquired⟩] ∧
      pair.start.later queued = ⟨1700000000, 0⟩ ∧ read ≤ queued := by
  obtain ⟨f, at_0⟩ : ∃ f, pairEnd.followers[0]? = some f :=
    Option.isSome_iff_exists.1 (by decide +kernel)
  have web : f.service = "web" := Option.some.inj (pairEnd_reachable.served at_0).symm
  have split : pairEnd.notesOf 0 = (pairEnd.notesOf 0).take 8 ++
      ⟨0, 500, .opened (.after ⟨1700000000, 0⟩)⟩ :: (pairEnd.notesOf 0).drop 9 := by
    decide +kernel
  obtain ⟨past, trailing, read, queued, waited, back, before, since, ordered, -⟩ :=
    pairEnd_reachable.reopens_since_queued at_0 split rfl rfl
  exact ⟨split, past, trailing, read, queued, waited, back, web ▸ before, since.symm, ordered⟩

/-! ## A full queue -/

/-- The first service has more to say than the queue has slots, and comes back at once. -/
def talkative : Playlist where
  streams :=
    [("web",
      [{ result := some (.ok [{ result := some (.line "one") },
          { result := some (.line "two") }, { result := some (.ended none) }]) },
        { result := some (.ok []) }]),
      ("db", [{ result := some (.ok []) }])]
  restarts := [("web", [{ result := some (.ok ()) }])]

/-- The end of its stream has been read a second ago, and the queue is full. -/
def stalled : World Playlist :=
  let full := (start pair talkative slow).moveFor pair 20
  { full with now := full.now + 1000 }

/-- The printer takes the first line, and half a second later the service is followed again. -/
def reopened : World Playlist :=
  let settling := (stalled.printerMove?.getD stalled).moveFor pair 20
  World.moveFor pair 20 { settling with now := settling.now + 500 }

theorem reopened_reachable : Reachable pair (start pair talkative slow) reopened := by
  have filled : Reachable pair (start pair talkative slow) stalled :=
    (reachable_moveFor 20 rfl).step (.timePasses (by decide +kernel) 1000)
  have taken : Reachable pair (start pair talkative slow) (stalled.printerMove?.getD stalled) := by
    obtain ⟨v, takes⟩ : ∃ v, stalled.printerMove? = some v :=
      Option.isSome_iff_exists.1 (by decide +kernel)
    rw [takes]
    exact filled.step (.printer (by decide +kernel) takes)
  have settled := (taken.trans (reachable_moveFor 20 (by decide +kernel))).step
    (.timePasses (by decide +kernel) 500)
  exact settled.trans (reachable_moveFor 20 (by decide +kernel))

/-- The end of the first stream is read at the start of the run, but what is asked for after it was
written a second later. -/
theorem talkative_has_a_gap :
    Reachable pair (start pair talkative slow) reopened ∧
    ∃ past queued waited back after ended since,
      reopened.notesOf 0 = past ++ [⟨0, 0, .got (.ended none)⟩,
          ⟨0, queued, .queued (.terminal "web" none ended)⟩, ⟨0, queued, .released⟩,
          ⟨0, waited, .awaited⟩, ⟨0, back, .acquired⟩] ++
        ⟨0, back, .opened (.after since)⟩ :: after ∧
      ¬ since ≤ ended := by
  refine ⟨reopened_reachable, (reopened.notesOf 0).take 5, 1000, 1500, 1500, [],
    ⟨1700000000, 0⟩, ⟨1700000001, 0⟩, by decide +kernel, ?_⟩
  simp [Instant.le_iff]

end World

end Chronicle
