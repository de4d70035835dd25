import Chronicle.Proofs.Counting
import Chronicle.Proofs.Printing
import Chronicle.Run.Schedule
/-!
# The schedule is one of many

`World.next?` decides what happens next in a run. It only takes steps that `World.Step` allows, so
what holds of every run holds of the one that the schedule picks.
-/

namespace Chronicle

theorem Errand.lt_nextWake {α : Type} {e : Errand α} {now t : Nat}
    (h : e.nextWake? now = some t) : now < t := by
  unfold Errand.nextWake? at h
  split at h
  · obtain rfl := Option.some.inj h
    assumption
  · cases h

theorem Courier.lt_nextWake {c : Courier} {now t : Nat} (h : c.nextWake? now = some t) :
    now < t := by
  cases c with
  | opening e => exact Errand.lt_nextWake (e := e) h
  | reading e rest => exact Errand.lt_nextWake (e := e) h
  | between _ | sending _ _ _ => simp [Courier.nextWake?] at h

theorem Follower.lt_nextWake {f : Follower} {now t : Nat} (h : f.nextWake? now = some t) :
    now < t := by
  unfold Follower.nextWake? at h
  split at h
  · exact Courier.lt_nextWake h
  · split at h
    · obtain rfl := Option.some.inj h
      assumption
    · cases h
  · exact Errand.lt_nextWake h
  · cases h

namespace World

variable {σ : Type} {p : Plan σ} {w w' : World σ} {cancelAt : Option Nat} {horizon : Nat}

theorem earliest?_mem {times : List Nat} {t : Nat} (h : earliest? times = some t) : t ∈ times := by
  induction times generalizing t with
  | nil => simp [earliest?] at h
  | cons u rest ih =>
    cases later : earliest? rest with
    | none =>
      obtain rfl : u = t := by simpa [earliest?, later] using h
      simp
    | some v =>
      obtain rfl : min u v = t := by simpa [earliest?, later] using h
      rcases Nat.le_total u v with le | le
      · simp [Nat.min_eq_left le]
      · simp [Nat.min_eq_right le, ih later]

theorem lt_nextWake {t : Nat} (h : w.nextWake? cancelAt = some t) : w.now < t := by
  have mem := earliest?_mem h
  rw [List.mem_append] at mem
  rcases mem with own | other
  · simpa using (List.mem_filter.1 own).2
  · obtain ⟨f, -, wakes⟩ := List.mem_filterMap.1 other
    exact f.lt_nextWake wakes

theorem firstMove?_mem (h : w.firstMove? p = some w') :
    ∃ i f, w.followers[i]? = some f ∧ w' ∈ w.followerMoves p i f := by
  obtain ⟨⟨f, i⟩, at_i, head⟩ := List.exists_of_findSome?_eq_some h
  exact ⟨i, f, by simpa using List.mk_mem_zipIdx_iff_getElem?.1 at_i, List.mem_of_head? head⟩

theorem firstMove?_step (going : w.isOver = false) (h : w.firstMove? p = some w') :
    Step p w w' := by
  obtain ⟨_, _, at_i, move⟩ := firstMove?_mem h
  exact .follower going at_i move

theorem next?_step (h : w.next? p cancelAt horizon = some w') : Step p w w' := by
  unfold next? at h
  cases going : w.isOver with
  | true => simp [going] at h
  | false =>
    simp only [going, Bool.false_eq_true, if_false] at h
    split at h
    · obtain rfl := Option.some.inj h
      exact .userCancels going
    · split at h
      · next move =>
        obtain rfl := Option.some.inj h
        exact .printer going move
      · split at h
        · next early =>
          split at h
          · next move =>
            obtain rfl := Option.some.inj h
            exact firstMove?_step going move
          · obtain ⟨t, wakes, rfl⟩ := Option.map_eq_some_iff.1 h
            have : w.now < t := lt_nextWake wakes
            have : w.now < horizon := by simpa using early
            have later : min t horizon = w.now + (min t horizon - w.now) := by omega
            rw [later]
            exact .timePasses going _
        · cases h

theorem reachable_runFor (steps : Nat) (w : World σ) :
    Reachable p w (w.runFor p cancelAt horizon steps) := by
  induction steps generalizing w with
  | zero => exact .start
  | succ steps ih =>
    unfold runFor
    split
    · exact .start
    · next w' next => exact .trans (.step .start (next?_step next)) (ih w')

theorem runFor_succ {steps : Nat} {w w' : World σ}
    (next : (w.runFor p cancelAt horizon steps).next? p cancelAt horizon = some w') :
    w.runFor p cancelAt horizon (steps + 1) = w' := by
  induction steps generalizing w with
  | zero =>
    rw [runFor] at next
    simp [runFor, next]
  | succ steps ih =>
    rw [runFor] at next
    rw [runFor]
    cases first : w.next? p cancelAt horizon with
    | none => simp [first] at next
    | some v =>
      rw [first] at next
      exact ih next

/-- The next thing the printer of a cancelled run does is to take all that is queued, and be done. -/
theorem printerMove?_of_cancelled (cancelled : w.cancelled = true) :
    ∃ done, w.printerMove? = some done ∧ done.queue = [] ∧ done.isOver = true := by
  refine ⟨{ w with printer := w.printer.handle w.now (.cancelled w.queue), queue := [] },
    ?_, rfl, ?_⟩
  · rw [printerMove?, cancelled, Printer.next_cancelled]
    rfl
  · simp [isOver, Printer.handle, Printer.conclude]

/-- The printer goes first, so a run that is cancelled is over with the next step. -/
theorem over_of_cancelled (steps : Nat)
    (going : (w.runFor p none horizon steps).isOver = false)
    (cancelled : (w.runFor p none horizon steps).cancelled = true) :
    (w.runFor p none horizon (steps + 1)).isOver = true := by
  generalize at_v : w.runFor p none horizon steps = v at going cancelled
  obtain ⟨done, move, -, ended⟩ := printerMove?_of_cancelled cancelled
  have next : v.next? p none horizon = some done := by simp [next?, going, move]
  rw [runFor_succ (at_v ▸ next)]
  exact ended

/-! ## Followers alone -/

/-- The followers make so many moves, the first of them that can, while the printer does nothing. -/
def moveFor (p : Plan σ) : Nat → World σ → World σ
  | 0, w => w
  | moves + 1, w => match w.firstMove? p with
    | none => w
    | some w' => moveFor p moves w'

theorem firstMove?_isOver (h : w.firstMove? p = some w') : w'.isOver = w.isOver := by
  obtain ⟨_, _, at_i, move⟩ := firstMove?_mem h
  obtain ⟨_, _, -, moved⟩ := turn_of_mem at_i move
  rw [isOver, moved.printer, isOver]

theorem reachable_moveFor (moves : Nat) (going : w.isOver = false) :
    Reachable p w (w.moveFor p moves) := by
  induction moves generalizing w with
  | zero => exact .start
  | succ moves ih =>
    unfold moveFor
    split
    · exact .start
    · next w' first =>
      have step := firstMove?_step going first
      exact .trans (.step .start step) (ih ((firstMove?_isOver first).trans going))

end World

end Chronicle
