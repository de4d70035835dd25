import Chronicle.Proofs.Journal
/-!
# Times in a run

Time only passes, so the notes of the journal are in order of time, and what a follower has stamped
it has stamped with a time of its notes: `Reachable.stamped`.
-/

namespace Chronicle

theorem Instant.later_le_later (i : Instant) {a b : Nat} (le : a ≤ b) : i.later a ≤ i.later b := by
  simp only [Instant.le_iff, Instant.later, nanosPerSecond]
  omega

/-- When the line or the end of a stream was received. -/
def RawRecord.receivedAt? : RawRecord → Option Instant
  | .data _ _ receivedAt => some receivedAt
  | .terminal _ _ receivedAt => some receivedAt
  | .failure _ _ => none

/-- The stamp of a deed: when what is queued was received, or from when on output is asked for. -/
def Deed.stamp? : Deed → Option Instant
  | .queued r => r.receivedAt?
  | .opened options => options.since
  | _ => none

/-- The stamps a follower holds. -/
def Follower.stamps (f : Follower) : List Instant :=
  f.options.since.toList ++
    match f.stage with
    | .carrying (.sending _ receivedAt _) => [receivedAt]
    | .settling _ ended | .awaiting _ ended => [ended]
    | _ => []

namespace World

variable {σ : Type} {p : Plan σ} {w w' w₀ : World σ} {i : Nat} {f f' : Follower}
  {deeds : List Deed}

theorem Step.now_le (step : Step p w w') : w.now ≤ w'.now := by
  cases step with
  | follower _ at_i move =>
    obtain ⟨_, _, -, moved⟩ := turn_of_mem at_i move
    exact Nat.le_of_eq moved.now.symm
  | printer _ move =>
    obtain ⟨_, -, rfl⟩ := Option.map_eq_some_iff.1 move
    exact Nat.le_refl _
  | userCancels => exact Nat.le_refl _
  | timePasses _ ms => exact Nat.le_add_right _ _

/-- The journal is in order of time, the latest first, and nothing in it is yet to come. -/
theorem Reachable.journal_times (start : w₀.journal = []) (reach : Reachable p w₀ w) :
    (∀ n ∈ w.journal, n.time ≤ w.now) ∧ w.journal.Pairwise fun later n => n.time ≤ later.time := by
  induction reach with
  | start => simp [start]
  | @step v v' _ step ih =>
    obtain ⟨past, ordered⟩ := ih
    rcases step.idle_or_turn with idle | ⟨i, _, deeds, _, -, -, moved⟩
    · rw [idle.journal]
      exact ⟨fun n mem => Nat.le_trans (past n mem) step.now_le, ordered⟩
    · have fresh : ∀ n ∈ (v.notesAt i deeds).reverse, n.time = v.now := by
        intro n mem
        obtain ⟨_, -, rfl⟩ := List.mem_map.1 (List.mem_reverse.1 mem)
        rfl
      have journal : v'.journal = (v.notesAt i deeds).reverse ++ v.journal := moved.journal
      rw [journal, moved.now, List.pairwise_append, List.forall_mem_append]
      refine ⟨⟨fun n mem => Nat.le_of_eq (fresh n mem), past⟩, ?_, ordered, ?_⟩
      · apply List.pairwise_of_forall_mem_list
        intro n mem m mem'
        exact Nat.le_of_eq ((fresh m mem').trans (fresh n mem).symm)
      · intro n mem m old
        rw [fresh n mem]
        exact past m old

theorem Reachable.notes_past (start : w₀.journal = []) (reach : Reachable p w₀ w) :
    ∀ n ∈ w.notesOf i, n.time ≤ w.now := by
  intro n mem
  exact (reach.journal_times start).1 n (List.mem_reverse.1 (List.mem_filter.1 mem).1)

theorem Reachable.notes_ordered (start : w₀.journal = []) (reach : Reachable p w₀ w) :
    (w.notesOf i).Pairwise fun n later => n.time ≤ later.time :=
  (List.pairwise_reverse.2 (reach.journal_times start).2).filter _

/-! ## Stamps -/

theorem stamps_restStage :
    ∀ s ∈ ({ f with stage := restStage p w } : Follower).stamps,
      s ∈ f.stamps ∨ s = p.start.later w.now := by
  intro s mem
  rcases List.mem_append.1 mem with since | now
  · exact .inl (List.mem_append_left _ since)
  · by_cases follow : p.follow = true <;> simp [restStage, follow] at now
    exact .inr now

/-- A new stamp is that of the moment, and something is noted then. -/
theorem Turn.stamps (turn : Turn p w f deeds f') :
    ∀ s ∈ f'.stamps, s ∈ f.stamps ∨ (deeds ≠ [] ∧ s = p.start.later w.now) := by
  intro s mem
  cases turn with
  | opens | misses | sends | breaks | reports | loses | leaves =>
    exact .inl (List.mem_append_left _ (by simpa [Follower.stamps] using mem))
  | works at_work quiet =>
    refine .inl (List.mem_append_left _ ?_)
    cases quiet <;> simpa [Follower.stamps] using mem
  | reads =>
    rcases List.mem_append.1 mem with since | now
    · exact .inl (List.mem_append_left _ since)
    · exact .inr ⟨by simp, by simpa using now⟩
  | ends =>
    exact (stamps_restStage s mem).imp_right fun now => ⟨by simp, now⟩
  | stops _ _ rests =>
    rcases rests with rfl | ⟨-, rfl⟩
    · exact .inl (List.mem_append_left _ (by simpa [Follower.stamps] using mem))
    · exact (stamps_restStage s mem).imp_right fun now => ⟨by simp, now⟩
  | asks waits | lingers waits => exact .inl (by simpa [Follower.stamps, waits] using mem)
  | resumes waits =>
    exact .inl (List.mem_append_right _ (by simpa [Follower.stamps, waits] using mem))

theorem Turn.stamp_of_deed (turn : Turn p w f deeds f') :
    ∀ d ∈ deeds, ∀ s, d.stamp? = some s → s ∈ f.stamps := by
  cases turn with
  | opens ready => simp [Deed.stamp?, Follower.stamps, ready]
  | works | lingers | leaves => simp
  | misses | reads | asks | resumes | stops => simp [Deed.stamp?]
  | sends at_work | ends at_work | breaks at_work | reports at_work =>
    simp [Deed.stamp?, RawRecord.receivedAt?, Follower.stamps, at_work]
  | loses => split <;> simp [Deed.stamp?]

/-- The stamps in notes and in the hands of the follower are from the times of the notes. -/
structure Stamped (p : Plan σ) (notes : List Note) (f : Follower) : Prop where
  noted : ∀ n ∈ notes, ∀ s, n.deed.stamp? = some s → s ≤ p.start.later n.time
  held : ∀ s ∈ f.stamps, ∃ n ∈ notes, s = p.start.later n.time

theorem Stamped.turn {notes : List Note} (h : Stamped p notes f) (turn : Turn p w f deeds f')
    (past : ∀ n ∈ notes, n.time ≤ w.now) : Stamped p (notes ++ w.notesAt i deeds) f' where
  noted := by
    refine List.forall_mem_append.2 ⟨h.noted, ?_⟩
    intro n mem s stamp
    obtain ⟨d, did, rfl⟩ := List.mem_map.1 mem
    -- The follower held the stamp, so it is from a note of before.
    obtain ⟨m, old, rfl⟩ := h.held s (turn.stamp_of_deed d did s stamp)
    exact p.start.later_le_later (past m old)
  held := by
    intro s mem
    rcases turn.stamps s mem with before | ⟨some_deed, rfl⟩
    · obtain ⟨n, old, same⟩ := h.held s before
      exact ⟨n, List.mem_append_left _ old, same⟩
    · obtain ⟨d, did⟩ := List.exists_mem_of_ne_nil _ some_deed
      exact ⟨⟨i, w.now, d⟩, List.mem_append_right _ (List.mem_map_of_mem did), rfl⟩

theorem Reachable.stamped {backend : σ} {printer : Printer}
    (reach : Reachable p (World.start p backend printer) w) (at_i : w.followers[i]? = some f) :
    Stamped p (w.notesOf i) f := by
  refine reach.every_follower (P := fun _ => Stamped p) ?_ ?_ at_i
  · intro i service
    constructor <;> simp [Follower.stamps]
  · intro v i f deeds f' before stamped turn
    exact stamped.turn turn (before.notes_past rfl)

end World

end Chronicle
