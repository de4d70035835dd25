import Chronicle.Proofs.Turns
import Mathlib.Tactic.ByContra
/-!
# The count of active followers

Reaching zero cancels the run, and nothing brings the count back: `Counted` says that the count is
the number of followers that open, read or report a stream, and that the run has cancelled itself
exactly when there is none.
-/

namespace Chronicle.World

variable {σ : Type} {p : Plan σ} {w w' w₀ u v : World σ} {i : Nat} {f f' : Follower}
  {deeds : List Deed}

/-! ## Steps -/

/-- A step in which no follower moves. -/
structure Idle (w w' : World σ) : Prop where
  followers : w'.followers = w.followers
  journal : w'.journal = w.journal
  active : w'.active = w.active
  selfCancelled : w'.selfCancelled = w.selfCancelled
  userCancelled : w.userCancelled = true → w'.userCancelled = true

theorem Step.idle_or_turn (step : Step p w w') :
    Idle w w' ∨ ∃ i f deeds f', w.followers[i]? = some f ∧ Turn p w f deeds f' ∧
      Moved w i deeds f' w' := by
  cases step with
  | follower _ at_i move =>
    obtain ⟨deeds, f', turn, moved⟩ := turn_of_mem at_i move
    exact .inr ⟨_, _, deeds, f', at_i, turn, moved⟩
  | printer _ move =>
    obtain ⟨event, -, rfl⟩ := Option.map_eq_some_iff.1 move
    exact .inl ⟨rfl, rfl, rfl, rfl, id⟩
  | userCancels => exact .inl ⟨rfl, rfl, rfl, rfl, fun _ => rfl⟩
  | timePasses => exact .inl ⟨rfl, rfl, rfl, rfl, id⟩

theorem Step.userCancelled (step : Step p w w') (before : w.userCancelled = true) :
    w'.userCancelled = true := by
  rcases step.idle_or_turn with idle | ⟨_, _, _, _, -, -, moved⟩
  · exact idle.userCancelled before
  · exact moved.userCancelled before

theorem Step.uncancelled (step : Step p w w') (after : w'.userCancelled = false) :
    w.userCancelled = false := by
  by_contra before
  simp [step.userCancelled (by simpa using before)] at after

theorem Step.followers_length (step : Step p w w') :
    w'.followers.length = w.followers.length := by
  rcases step.idle_or_turn with idle | ⟨_, _, _, _, -, -, moved⟩
  · rw [idle.followers]
  · rw [moved.followers, List.length_set]

theorem Reachable.trans (first : Reachable p u v) (second : Reachable p v w) : Reachable p u w := by
  induction second with
  | start => exact first
  | step _ step ih => exact ih.step step

theorem Reachable.followers_length {backend : σ} {printer : Printer}
    (reach : Reachable p (World.start p backend printer) w) :
    w.followers.length = p.services.length := by
  induction reach with
  | start => simp [World.start]
  | step _ step ih => rw [step.followers_length, ih]

/-- What was noted stays noted. -/
theorem Reachable.journal_suffix (reach : Reachable p u w) : u.journal <:+ w.journal := by
  induction reach with
  | start => exact List.suffix_refl _
  | step _ step ih =>
    rcases step.idle_or_turn with idle | ⟨_, _, _, _, -, -, moved⟩
    · exact idle.journal ▸ ih
    · exact moved.journal ▸ ih.trans (List.suffix_append _ _)

theorem Reachable.uncancelled (reach : Reachable p u w) (after : w.userCancelled = false) :
    u.userCancelled = false := by
  induction reach with
  | start => exact after
  | step _ step ih => exact ih (step.uncancelled after)

/-! ## What a turn does to the count -/

theorem restStage_isActive : ({ f with stage := restStage p w } : Follower).isActive = false := by
  by_cases follow : p.follow = true <;> simp [restStage, Follower.isActive, follow]

/-- A follower that waits is not active. -/
theorem idle_of_waiting (waits : f.isWaiting = true) : f.isActive = false := by
  cases stage : f.stage <;> simp_all [Follower.isWaiting, Follower.isActive]

/-- A turn leaves its follower as active as it was, or the follower stops being active and releases
its count, or it becomes active in a run that is not cancelled and adds to the count. -/
theorem Turn.activity (turn : Turn p w f deeds f') :
    (f'.isActive = f.isActive ∧ .released ∉ deeds ∧ Deed.gains deeds = 0) ∨
      (f.isActive = true ∧ f'.isActive = false ∧ .released ∈ deeds ∧
        Deed.gains deeds = -1) ∨
      (f.isActive = false ∧ f'.isActive = true ∧ w.cancelled = false ∧ .released ∉ deeds ∧
        Deed.gains deeds = 1) := by
  cases turn with
  | opens ready => exact .inl (by simp [Follower.isActive, ready, Deed.gain])
  | works at_work | misses at_work | reads at_work
  | sends at_work => exact .inl (by simp [Follower.isActive, at_work, Deed.gain])
  | breaks at_work
  | reports at_work => exact .inr (.inl (by simp [Follower.isActive, at_work, Deed.gain]))
  | ends at_work =>
    refine .inr (.inl ⟨?_, restStage_isActive, by simp [Deed.gain]⟩)
    simp [Follower.isActive, at_work]
  | stops active _ rests =>
    refine .inr (.inl ⟨active, ?_, by simp [Deed.gain]⟩)
    rcases rests with rfl | ⟨-, rfl⟩
    · rfl
    · exact restStage_isActive
  | asks settled => exact .inl (by simp [Follower.isActive, settled, Deed.gain])
  | lingers waits => exact .inl (by simp [Follower.isActive, waits])
  | leaves waits => exact .inl ⟨(idle_of_waiting waits).symm, by simp⟩
  | resumes waits calm => exact .inr (.inr (by simp [Follower.isActive, waits, calm, Deed.gain]))
  | loses waits => exact .inl (by split <;> simp [Follower.isActive, waits, Deed.gain])

/-! ## The invariant -/

/-- The count is right, and the run has cancelled itself exactly when no follower is active. -/
structure Counted (w : World σ) : Prop where
  active : w.active = w.followers.countP (·.isActive)
  stopped : w.selfCancelled = true ↔ w.active = 0

theorem Counted.active_pos (h : Counted w) (at_i : w.followers[i]? = some f)
    (active : f.isActive = true) : 0 < w.active := by
  have : 0 < w.followers.countP (·.isActive) :=
    List.countP_pos_iff.2 ⟨f, List.mem_of_getElem? at_i, active⟩
  have := h.active
  omega

theorem Counted.going (h : Counted w) (at_i : w.followers[i]? = some f)
    (active : f.isActive = true) : w.selfCancelled = false := by
  have pos := h.active_pos at_i active
  by_contra stopped
  have := h.stopped.1 (by simpa using stopped)
  omega

theorem Counted.calm (h : Counted w) (user : w.userCancelled = false)
    (at_i : w.followers[i]? = some f) (active : f.isActive = true) : w.cancelled = false := by
  simp [cancelled, user, h.going at_i active]

theorem Counted.inactive (h : Counted w) (zero : w.active = 0) (mem : f ∈ w.followers) :
    f.isActive = false := by
  have none : w.followers.countP (·.isActive) = 0 := by
    have := h.active
    omega
  simpa using List.countP_eq_zero.1 none f mem

/-- Only the follower that moved can be counted otherwise than before. -/
theorem Moved.countP (moved : Moved w i deeds f' w') (at_i : w.followers[i]? = some f)
    (q : Follower → Bool) :
    w'.followers.countP q + (q f).toNat = w.followers.countP q + (q f').toNat := by
  obtain ⟨bound, rfl⟩ := List.getElem?_eq_some_iff.1 at_i
  have counted : q w.followers[i] = true → 0 < w.followers.countP q := by
    intro holds
    exact List.countP_pos_iff.2 ⟨_, List.getElem_mem bound, holds⟩
  rw [moved.followers, List.countP_set bound]
  cases was : q w.followers[i] with
  | false => cases q f' <;> simp
  | true =>
    have pos := counted was
    cases q f' <;> simp <;> omega

theorem Moved.active_eq (moved : Moved w i deeds f' w') (at_i : w.followers[i]? = some f)
    (turn : Turn p w f deeds f') (before : w.active = w.followers.countP (·.isActive)) :
    w'.active = w'.followers.countP (·.isActive) := by
  have count := moved.countP at_i (·.isActive)
  rw [moved.active, before]
  rcases turn.activity with ⟨same, -, gain⟩ | ⟨was, is, -, gain⟩ | ⟨was, is, -, -, gain⟩
  · rw [same] at count
    omega
  · simp [was, is] at count
    omega
  · simp [was, is] at count
    omega

theorem Counted.turn (h : Counted w) (at_i : w.followers[i]? = some f)
    (turn : Turn p w f deeds f') (moved : Moved w i deeds f' w') : Counted w' := by
  have before := h.active
  have self := moved.selfCancelled
  have active := moved.active
  refine ⟨moved.active_eq at_i turn before, ?_⟩
  rcases turn.activity with ⟨same, kept, gain⟩ | ⟨was, is, released, gain⟩ |
    ⟨was, is, calm, kept, gain⟩
  · -- The follower is as active as before.
    simp [self, kept, active, gain, h.stopped]
  · -- The follower was active, so the run had not cancelled itself.
    have going := h.going at_i was
    rw [self, active, gain]
    simp [going, released]
    omega
  · -- It becomes active, which only happens in a run that is not cancelled.
    have going : w.selfCancelled = false := by simp_all [cancelled]
    rw [self, active, gain]
    simp [going, kept]
    omega

theorem Counted.step (h : Counted w) (step : Step p w w') : Counted w' := by
  rcases step.idle_or_turn with idle | ⟨i, f, deeds, f', at_i, turn, moved⟩
  · exact ⟨by rw [idle.active, idle.followers, h.active], by
      rw [idle.selfCancelled, idle.active, h.stopped]⟩
  · exact h.turn at_i turn moved

theorem Counted.reachable (h : Counted w₀) (reach : Reachable p w₀ w) : Counted w := by
  induction reach with
  | start => exact h
  | step _ step ih => exact ih.step step

theorem counted_start (served : p.services ≠ []) (backend : σ) (printer : Printer) :
    Counted (start p backend printer) where
  active := by simp [start, List.countP_map, Function.comp_def, Follower.isActive]
  stopped := by
    have : p.services.length ≠ 0 := fun h => served (List.length_eq_zero_iff.1 h)
    simp only [start, Bool.false_eq_true, false_iff]
    omega

end Chronicle.World
