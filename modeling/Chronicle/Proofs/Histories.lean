import Chronicle.Proofs.Schedule
/-!
# Histories

A history is a run with all its states, one after the other, so that one can speak of the moments at
which something was so. The schedule gives a history as long as it goes on.
-/

namespace Chronicle.World

variable {σ : Type} {p : Plan σ} {w₀ : World σ} {cancelAt : Option Nat} {horizon : Nat}

/-- The states of a run from its first to its last. -/
structure History (p : Plan σ) (w₀ : World σ) where
  length : Nat
  state : Nat → World σ
  starts : state 0 = w₀
  steps : ∀ k < length, Step p (state k) (state (k + 1))

namespace History

/-- The last state of a history. -/
def last (h : History p w₀) : World σ := h.state h.length

variable (h : History p w₀) {j k : Nat}

theorem reach (le : j ≤ k) (inside : k ≤ h.length) : Reachable p (h.state j) (h.state k) := by
  induction le with
  | refl => exact .start
  | @step k _ ih => exact .step (ih (by omega)) (h.steps k (by omega))

theorem reachable (inside : k ≤ h.length) : Reachable p w₀ (h.state k) := by
  have := h.reach (Nat.zero_le k) inside
  rwa [h.starts] at this

theorem reach_last (inside : k ≤ h.length) : Reachable p (h.state k) h.last :=
  h.reach inside (Nat.le_refl _)

end History

/-- The states the schedule comes to, as long as it goes on. -/
def History.scheduled (p : Plan σ) (cancelAt : Option Nat) (horizon length : Nat) (w : World σ)
    (goesOn : ∀ k < length,
      ((w.runFor p cancelAt horizon k).next? p cancelAt horizon).isSome = true) :
    History p w where
  length
  state k := w.runFor p cancelAt horizon k
  starts := rfl
  steps k inside := by
    obtain ⟨w', next⟩ := Option.isSome_iff_exists.1 (goesOn k inside)
    rw [runFor_succ next]
    exact next?_step next

end Chronicle.World
