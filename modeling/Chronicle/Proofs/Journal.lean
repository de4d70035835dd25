import Chronicle.Proofs.Counting
/-!
# What the journal says of one follower

The journal is written by all followers together. `World.notesOf` is the part that tells of one of
them, the first note first, and only a turn of that follower adds to it. So what holds of the notes
and the stage of one follower at the start, and is kept by its turns, holds in every run: that is
`Reachable.each_follower`. The first use is `Reachable.balance`: what a follower has read it has
queued, in order, up to the one record it still holds.
-/

namespace Chronicle

/-- The record of what a note says was read, or could not be opened. -/
def Plan.record? {σ : Type} (p : Plan σ) (n : Note) : Option RawRecord :=
  match p.services[n.follower]?, n.deed with
  | some service, .got o => some (Courier.recordOf service (p.start.later n.time) o)
  | some service, .notOpened fault => some (.failure service fault)
  | _, _ => none

/-- The record that a note says was queued. -/
def Note.queued? (n : Note) : Option RawRecord := n.deed.record?

namespace World

variable {σ : Type} {p : Plan σ} {w w' w₀ : World σ} {i j : Nat} {f f' : Follower}
  {deeds : List Deed}

/-! ## Notes of one follower -/

/-- What one follower did, the first first. -/
def notesOf (w : World σ) (i : Nat) : List Note := w.journal.reverse.filter (·.follower = i)

/-- The notes that a turn adds. -/
def notesAt (w : World σ) (i : Nat) (deeds : List Deed) : List Note :=
  deeds.map fun deed => ⟨i, w.now, deed⟩

theorem Moved.notes_self (moved : Moved w i deeds f' w') :
    w'.notesOf i = w.notesOf i ++ w.notesAt i deeds := by
  have all : (w.notesAt i deeds).filter (·.follower = i) = w.notesAt i deeds := by
    rw [List.filter_eq_self]
    intro n mem
    obtain ⟨deed, -, rfl⟩ := List.mem_map.1 mem
    simp
  rw [notesOf, moved.journal, List.reverse_append, List.filter_append, List.reverse_reverse]
  exact congrArg _ all

theorem Moved.notes_other (moved : Moved w i deeds f' w') (other : j ≠ i) :
    w'.notesOf j = w.notesOf j := by
  have none : (w.notesAt i deeds).filter (·.follower = j) = [] := by
    rw [List.filter_eq_nil_iff]
    intro n mem
    obtain ⟨deed, -, rfl⟩ := List.mem_map.1 mem
    simpa using Ne.symm other
  rw [notesOf, moved.journal, List.reverse_append, List.filter_append, List.reverse_reverse]
  exact (congrArg _ none).trans (List.append_nil _)

theorem Moved.follower_self (moved : Moved w i deeds f' w') (at_i : w.followers[i]? = some f) :
    w'.followers[i]? = some f' := by
  obtain ⟨bound, -⟩ := List.getElem?_eq_some_iff.1 at_i
  simp [moved.followers, bound]

theorem Moved.follower_other (moved : Moved w i deeds f' w') (other : j ≠ i) :
    w'.followers[j]? = w.followers[j]? := by
  simp [moved.followers, List.getElem?_set_ne other.symm]

/-- A step leaves a follower and its notes alone, or is a turn of it. -/
theorem Step.of_follower (step : Step p w w') (at_i : w'.followers[i]? = some f') :
    ∃ f, w.followers[i]? = some f ∧ ((f' = f ∧ w'.notesOf i = w.notesOf i) ∨
      ∃ deeds, Turn p w f deeds f' ∧ w'.notesOf i = w.notesOf i ++ w.notesAt i deeds) := by
  rcases step.idle_or_turn with idle | ⟨j, g, deeds, g', at_j, turned, moved⟩
  · exact ⟨f', idle.followers ▸ at_i, .inl ⟨rfl, by rw [notesOf, idle.journal, notesOf]⟩⟩
  · by_cases same : i = j
    · subst same
      obtain rfl : g' = f' := by
        rw [moved.follower_self at_j] at at_i
        exact Option.some.inj at_i
      exact ⟨g, at_j, .inr ⟨deeds, turned, moved.notes_self⟩⟩
    · exact ⟨f', (moved.follower_other same).symm.trans at_i,
        .inl ⟨rfl, moved.notes_other same⟩⟩

theorem Step.at_follower (step : Step p w w') (at_i : w.followers[i]? = some f) :
    (w'.followers[i]? = some f ∧ w'.notesOf i = w.notesOf i) ∨
      ∃ deeds f', w'.followers[i]? = some f' ∧ Turn p w f deeds f' ∧
        w'.notesOf i = w.notesOf i ++ w.notesAt i deeds := by
  obtain ⟨bound, -⟩ := List.getElem?_eq_some_iff.1 at_i
  rw [← step.followers_length] at bound
  have at_i' := List.getElem?_eq_getElem bound
  obtain ⟨g, at_g, ⟨same, notes⟩ | ⟨deeds, turn, notes⟩⟩ := step.of_follower at_i'
  all_goals obtain rfl := Option.some.inj (at_i.symm.trans at_g)
  · exact .inl ⟨same ▸ at_i', notes⟩
  · exact .inr ⟨deeds, _, at_i', turn, notes⟩

/-- What a turn of a follower keeps, from the notes and the follower before to those after, every
run keeps. `Q` is what is known of all states up to the last. -/
theorem Reachable.each_follower {Q : World σ → Prop} {P : Nat → List Note → Follower → Prop}
    (back : ∀ {v v'}, Step p v v' → Q v' → Q v)
    (start : ∀ {i f}, w₀.followers[i]? = some f → P i (w₀.notesOf i) f)
    (turn : ∀ {v i f deeds f'}, Reachable p w₀ v → Q v → v.followers[i]? = some f →
      P i (v.notesOf i) f → Turn p v f deeds f' → P i (v.notesOf i ++ v.notesAt i deeds) f')
    (reach : Reachable p w₀ w) (known : Q w) :
    ∀ {i f}, w.followers[i]? = some f → P i (w.notesOf i) f := by
  -- Induction on the run. A step that is no turn of the follower changes nothing for it.
  induction reach with
  | start => exact start
  | @step v v' before step ih =>
    intro i f' at_i
    have knew := back step known
    obtain ⟨f, at_i, ⟨rfl, same⟩ | ⟨deeds, turned, notes⟩⟩ := step.of_follower at_i
    · exact same ▸ ih knew at_i
    · exact notes ▸ turn before knew at_i (ih knew at_i) turned

theorem follower_at_start {backend : σ} {printer : Printer}
    (at_i : (World.start p backend printer).followers[i]? = some f) :
    p.services[i]? = some f.service ∧
      f = { service := f.service, options := { follow := p.follow, previous := p.previous } } := by
  simp only [World.start, List.getElem?_map, Option.map_eq_some_iff] at at_i
  obtain ⟨service, served, rfl⟩ := at_i
  exact ⟨served, rfl⟩

/-- What holds of the followers of a fresh run, and every turn keeps, holds in all of the run. -/
theorem Reachable.every_follower {backend : σ} {printer : Printer}
    {P : Nat → List Note → Follower → Prop}
    (start : ∀ i service,
      P i [] { service, options := { follow := p.follow, previous := p.previous } })
    (turn : ∀ {v i f deeds f'}, Reachable p (World.start p backend printer) v →
      P i (v.notesOf i) f → Turn p v f deeds f' → P i (v.notesOf i ++ v.notesAt i deeds) f')
    (reach : Reachable p (World.start p backend printer) w) :
    ∀ {i f}, w.followers[i]? = some f → P i (w.notesOf i) f := by
  refine Reachable.each_follower (Q := fun _ => True) (fun _ _ => trivial) ?_
    (fun before _ _ holds turned => turn before holds turned) reach trivial
  intro i f at_i
  rw [(follower_at_start at_i).2]
  exact start i _

theorem Reachable.note_bound (start : w₀.journal = []) (reach : Reachable p w₀ w) :
    ∀ n ∈ w.journal, n.follower < w.followers.length := by
  induction reach with
  | start => simp [start]
  | @step v v' _ step ih =>
    intro n mem
    rw [step.followers_length]
    rcases step.idle_or_turn with idle | ⟨i, f, deeds, f', at_i, -, moved⟩
    · exact ih n (idle.journal ▸ mem)
    · rw [moved.journal, List.mem_append, List.mem_reverse] at mem
      rcases mem with mem | mem
      · obtain ⟨deed, -, rfl⟩ := List.mem_map.1 mem
        exact (List.getElem?_eq_some_iff.1 at_i).1
      · exact ih n mem

/-! ## What was read was queued -/

theorem Turn.service (turn : Turn p w f deeds f') : f'.service = f.service := by
  cases turn <;> rfl

theorem held_of_idle (idle : f.isActive = false) : f.held = [] := by
  cases stage : f.stage <;> simp_all [Follower.isActive, Follower.held]

theorem held_restStage : ({ f with stage := restStage p w } : Follower).held = [] := by
  by_cases follow : p.follow = true <;> simp [restStage, Follower.held, follow]

/-- A turn in a run that is not cancelled loses no record. -/
theorem Turn.balance (turn : Turn p w f deeds f') (served : p.services[i]? = some f.service)
    (calm : f.isActive = true → w.cancelled = false) :
    f.held ++ (w.notesAt i deeds).filterMap p.record? =
      (w.notesAt i deeds).filterMap Note.queued? ++ f'.held := by
  cases turn with
  | opens ready =>
    simp [Follower.held, ready, notesAt, Plan.record?, Note.queued?, Deed.record?, served]
  | works at_work quiet =>
    cases quiet <;> simp [Follower.held, at_work, notesAt]
  | misses at_work | reads at_work | sends at_work | breaks at_work
  | reports at_work =>
    simp [Follower.held, at_work, notesAt, Plan.record?, Note.queued?, Deed.record?, served,
      Courier.recordOf]
  | ends at_work =>
    rw [held_restStage]
    simp [Follower.held, at_work, notesAt, Plan.record?, Note.queued?, Deed.record?, served,
      Courier.recordOf]
  | stops active cancelled =>
    -- Only a cancelled run makes a follower drop what it holds.
    simp [calm active] at cancelled
  | asks settled =>
    simp [Follower.held, settled, notesAt, Plan.record?, Note.queued?, Deed.record?, served]
  | lingers waits => simp [Follower.held, waits, notesAt]
  | leaves waits =>
    cases stage : f.stage <;> simp_all [Follower.isWaiting, Follower.held, notesAt]
  | resumes waits =>
    simp [Follower.held, waits, notesAt, Plan.record?, Note.queued?, Deed.record?, served]
  | loses waits =>
    split <;>
      simp [Follower.held, waits, notesAt, Plan.record?, Note.queued?, Deed.record?, served]

/-- The account of one follower in a run that the user does not cancel. -/
structure Balanced (p : Plan σ) (i : Nat) (notes : List Note) (f : Follower) : Prop where
  served : p.services[i]? = some f.service
  records : notes.filterMap p.record? = notes.filterMap Note.queued? ++ f.held

theorem Balanced.turn {notes : List Note} (h : Balanced p i notes f) (turn : Turn p w f deeds f')
    (calm : f.isActive = true → w.cancelled = false) :
    Balanced p i (notes ++ w.notesAt i deeds) f' where
  served := turn.service ▸ h.served
  records := by
    rw [List.filterMap_append, List.filterMap_append, h.records, List.append_assoc,
      turn.balance h.served calm, List.append_assoc]

/-- What a follower has read it has queued, in order, up to the record it holds. -/
theorem Reachable.balance {backend : σ} {printer : Printer} (served : p.services ≠ [])
    (reach : Reachable p (World.start p backend printer) w) (user : w.userCancelled = false)
    (at_i : w.followers[i]? = some f) : Balanced p i (w.notesOf i) f := by
  refine Reachable.each_follower (Q := fun v => v.userCancelled = false) (P := Balanced p)
    Step.uncancelled ?_ ?_ reach user at_i
  · intro i f at_i
    obtain ⟨served, fresh⟩ := follower_at_start at_i
    exact ⟨served, by rw [fresh]; simp [notesOf, World.start, Follower.held]⟩
  · intro v i f deeds f' before user at_i balanced turn
    exact balanced.turn turn fun active =>
      ((counted_start served backend printer).reachable before).calm user at_i active

end World

end Chronicle
