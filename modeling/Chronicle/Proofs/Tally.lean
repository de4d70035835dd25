import Chronicle.Proofs.Reattachment
/-!
# The count, follower by follower

`World.active` is one number that all followers change. What each of them did to it is in the
journal: a follower starts to stream with the run and whenever it becomes active again, and each
time it is released once. `Reachable.counts_streams` says that the number is always that of the
followers between a start and the release that matches it, and what cancels a run.
-/

namespace Chronicle

theorem Deed.gains_eq (deeds : List Deed) :
    Deed.gains deeds = deeds.count .acquired - deeds.count .released := by
  induction deeds with
  | nil => rfl
  | cons deed rest ih =>
    rw [Deed.gains_cons, ih, List.count_cons, List.count_cons]
    cases deed <;> simp [Deed.gain] <;> omega

theorem Deed.gains_append (old new : List Deed) :
    Deed.gains (old ++ new) = Deed.gains old + Deed.gains new := by
  rw [gains_eq, gains_eq, gains_eq, List.count_append, List.count_append]
  omega

/-! ## Calls that cancel -/

/-- The next thing to happen before the call returns is that the user cancels. -/
def Errand.isCancelling {α : Type} (e : Errand α) : Bool := e.call.delays.head? == some .cancel

theorem Errand.isCancelling_of_cancels {α : Type} {e e' : Errand α} {s : Surroundings}
    (h : e.step? s = some (.cancels e')) : e.isCancelling = true := by
  unfold Errand.step? at h
  split at h
  · cases h
  · split at h
    · simp at h
    · cases h
    · next delays => simp [isCancelling, delays]
    · split at h <;> cases h

/-- The user cancels while the call of a courier is under way. -/
def Courier.isCancelling : Courier → Bool
  | .opening e => e.isCancelling
  | .reading e _ => e.isCancelling
  | _ => false

theorem Courier.isCancelling_of_mem {c : Courier} {service : String} {s : Surroundings}
    {after : Courier.After} (mem : (after, .cancel) ∈ c.moves service s) :
    c.isCancelling = true := by
  cases c with
  | opening e | reading e _ =>
    simp only [moves] at mem
    split at mem <;> simp at mem
    exact Errand.isCancelling_of_cancels ‹_›
  | between script =>
    simp only [moves] at mem
    split at mem <;> simp at mem
  | sending o receivedAt rest =>
    simp only [moves, List.mem_append] at mem
    rcases mem with mem | mem <;> split at mem <;> simp at mem

/-- The user cancels while a call of the follower is under way. -/
def Follower.isCancelling (f : Follower) : Bool :=
  match f.stage with
  | .carrying c => c.isCancelling
  | .awaiting e _ => e.isCancelling
  | _ => false

theorem Follower.waits_or_gone {f : Follower} (idle : f.isActive = false) :
    f.isWaiting = true ∨ f.isGone = true := by
  cases stage : f.stage <;> simp_all [isActive, isWaiting, isGone]

namespace World

variable {σ : Type} {p : Plan σ} {w w' v : World σ} {i : Nat} {f f' : Follower}
  {deeds : List Deed}

/-! ## Who cancels for the user -/

theorem perform_userCancelled (act : Act) :
    (w.perform i act).userCancelled = (w.userCancelled || decide (act = .cancel)) := by
  cases act <;> simp [perform, note]

theorem afterStream_userCancelled (result : Except CourierFault Unit) :
    (w.afterStream p i result).userCancelled = w.userCancelled := by
  rcases result with (_ | _) | ⟨⟩
  · rfl
  · rfl
  · rw [afterStream_ok]
    rfl

theorem afterWait_userCancelled (ended : Instant) (result : Except WatchFault Unit) :
    (w.afterWait i ended result).userCancelled = w.userCancelled := by
  rcases result with (_ | _ | _) | ⟨⟩ <;> rfl

/-- A follower's move does not cancel for the user, unless the user does so during its call. -/
theorem userCancelled_of_mem (move : w' ∈ w.followerMoves p i f)
    (after : w'.userCancelled = true) : w.userCancelled = true ∨ f.isCancelling = true := by
  cases stage : f.stage with
  | gone => simp [followerMoves, stage] at move
  | ready =>
    obtain rfl : w' = _ := by simpa [followerMoves, stage] using move
    exact .inl after
  | carrying c =>
    simp only [followerMoves, stage, List.mem_map, Prod.exists] at move
    obtain ⟨next, act, mem, rfl⟩ := move
    have performed : (w.perform i act).userCancelled = true := by
      cases next with
      | going => exact after
      | done => rwa [afterStream_userCancelled] at after
    rw [perform_userCancelled, Bool.or_eq_true, decide_eq_true_eq] at performed
    rcases performed with before | rfl
    · exact .inl before
    · exact .inr (by simpa [Follower.isCancelling, stage] using Courier.isCancelling_of_mem mem)
  | reporting fault =>
    simp only [followerMoves, stage, List.mem_append] at move
    rcases move with move | move <;> split at move <;> simp at move <;> subst move <;>
      exact .inl after
  | settling wake ended =>
    simp only [followerMoves, stage] at move
    split at move
    · cases move
    · split at move <;> simp at move <;> subst move <;> exact .inl after
  | awaiting e ended =>
    simp only [followerMoves, stage] at move
    split at move
    · simp at move
      subst move
      exact .inl after
    · split at move <;> simp at move <;> subst move
      · exact .inl after
      · next cancels =>
        exact .inr (by simpa [Follower.isCancelling, stage] using
          Errand.isCancelling_of_cancels cancels)
      · rw [afterWait_userCancelled] at after
        exact .inl after

/-- Only the user cancels for the user: on his own, or during a call of a follower. -/
theorem Step.user_cancels (step : Step p w w') (after : w'.userCancelled = true) :
    w.userCancelled = true ∨ w' = { w with userCancelled := true } ∨
      ∃ f ∈ w.followers, f.isCancelling = true := by
  cases step with
  | follower _ at_i move =>
    rcases userCancelled_of_mem move after with before | cancelling
    · exact .inl before
    · exact .inr (.inr ⟨_, List.mem_of_getElem? at_i, cancelling⟩)
  | printer _ move =>
    obtain ⟨event, -, rfl⟩ := Option.map_eq_some_iff.1 move
    exact .inl after
  | userCancels => exact .inr (.inl rfl)
  | timePasses => exact .inl after

/-! ## Starts and releases -/

/-- How often a follower has started to stream: with the run, and each time it became active
again. -/
def starts (w : World σ) (i : Nat) : Nat := 1 + (w.deedsOf i).count .acquired

/-- How often a follower has stopped being active. -/
def releases (w : World σ) (i : Nat) : Nat := (w.deedsOf i).count .released

/-- A follower streams from a start until the release that matches it. -/
def streams (w : World σ) (i : Nat) : Bool := w.releases i < w.starts i

/-- An active follower has one release to come, and any other has none. -/
theorem Reachable.starts_eq {backend : σ} {printer : Printer}
    (reach : Reachable p (World.start p backend printer) w) (at_i : w.followers[i]? = some f) :
    w.starts i = w.releases i + if f.isActive then 1 else 0 := by
  suffices 1 + Deed.gains ((w.notesOf i).map Note.deed) = if f.isActive then 1 else 0 by
    rw [Deed.gains_eq] at this
    unfold starts releases deedsOf
    split at this <;> simp_all <;> omega
  refine reach.every_follower
    (P := fun _ notes f => 1 + Deed.gains (notes.map Note.deed) = if f.isActive then 1 else 0)
    ?_ ?_ at_i
  · intro i service
    rfl
  · intro v i f deeds f' _ before turn
    rw [List.map_append, notesAt_deed, Deed.gains_append]
    rcases turn.activity with ⟨same, -, gain⟩ | ⟨was, is, -, gain⟩ | ⟨was, is, -, -, gain⟩
    · rw [gain, same, Int.add_zero]
      exact before
    · simp [was] at before
      simp [is, gain]
      omega
    · simp [was] at before
      simp [is, gain]
      omega

theorem Reachable.streams_eq {backend : σ} {printer : Printer}
    (reach : Reachable p (World.start p backend printer) w) (at_i : w.followers[i]? = some f) :
    w.streams i = f.isActive := by
  unfold streams
  rw [reach.starts_eq at_i]
  cases f.isActive <;> simp

theorem Reachable.countP_streams {backend : σ} {printer : Printer}
    (reach : Reachable p (World.start p backend printer) w) :
    w.followers.countP (·.isActive) = (List.range p.services.length).countP w.streams := by
  have members : w.followers.zipIdx.map Prod.fst = w.followers := List.zipIdx_map_fst ..
  have places : w.followers.zipIdx.map Prod.snd = List.range p.services.length := by
    rw [List.zipIdx_map_snd, reach.followers_length, List.range_eq_range']
  -- Both count over the followers with their places.
  rw [← places, ← members, List.countP_map, List.countP_map, members]
  apply List.countP_congr
  intro ⟨f, i⟩ mem
  have at_i : w.followers[i]? = some f := List.mk_mem_zipIdx_iff_getElem?.1 mem
  simp [reach.streams_eq at_i]

/-! ## The count -/

/-- The count is that of the active followers, whether there are services or not. -/
theorem Reachable.active_eq {backend : σ} {printer : Printer}
    (reach : Reachable p (World.start p backend printer) w) :
    w.active = w.followers.countP (·.isActive) := by
  induction reach with
  | start =>
    simp [World.start, List.countP_map, Function.comp_def, Follower.isActive]
  | step _ step ih =>
    rcases step.idle_or_turn with idle | ⟨i, f, deeds, f', at_i, turn, moved⟩
    · rw [idle.active, idle.followers, ih]
    · exact moved.active_eq at_i turn ih

/-- A run without followers never counts, and any other has cancelled itself once the count is
zero. -/
theorem Reachable.stops_at_zero {backend : σ} {printer : Printer}
    (reach : Reachable p (World.start p backend printer) w) :
    w.followers = [] ∨ (w.selfCancelled = true ↔ w.active = 0) := by
  by_cases served : p.services = []
  · left
    rw [← List.length_eq_zero_iff, reach.followers_length, served, List.length_nil]
  · exact .inr ((counted_start served backend printer).reachable reach).stopped

theorem Reachable.silent (idle : ∀ f ∈ v.followers, f.isActive = false)
    (cancelled : v.followers = [] ∨ v.cancelled = true) (reach : Reachable p v w) :
    w.journal = v.journal ∧ ∀ f ∈ w.followers, f.isActive = false := by
  suffices (w.followers = [] ∨ w.cancelled = true) ∧ w.journal = v.journal ∧
      ∀ f ∈ w.followers, f.isActive = false from this.2
  induction reach with
  | start => exact ⟨cancelled, rfl, idle⟩
  | step _ step ih =>
    obtain ⟨stopped, same, idle⟩ := ih
    rcases step.idle_or_turn with still | ⟨i, f, deeds, f', at_i, turn, moved⟩
    · exact ⟨still.followers ▸ stopped.imp_right step.cancelled, still.journal.trans same,
        still.followers ▸ idle⟩
    · -- A follower that can still move waits, and all it can do is leave.
      have mem := List.mem_of_getElem? at_i
      have stopped := stopped.resolve_left (List.ne_nil_of_mem mem)
      have waiting : f.isWaiting = true :=
        (Follower.waits_or_gone (idle f mem)).resolve_right (by simp [turn.not_gone])
      obtain ⟨rfl, left⟩ := turn.leaves_cancelled waiting stopped
      refine ⟨.inr (step.cancelled stopped), by rw [moved.journal]; exact same, ?_⟩
      intro g of_g
      rw [moved.followers] at of_g
      rcases List.mem_or_eq_of_mem_set of_g with old | rfl
      · exact idle g old
      · simp [Follower.isActive, left]

/-- Once the count is zero it stays so, and no follower does anything that is noted. -/
theorem Reachable.silent_at_zero {backend : σ} {printer : Printer}
    (reach : Reachable p (World.start p backend printer) w) (zero : w.active = 0)
    (later : Reachable p w w') : w'.active = 0 ∧ w'.journal = w.journal := by
  have idle : ∀ f ∈ w.followers, f.isActive = false := by
    have count := reach.active_eq
    have none : w.followers.countP (·.isActive) = 0 := by omega
    simpa using List.countP_eq_zero.1 none
  have cancelled : w.followers = [] ∨ w.cancelled = true :=
    reach.stops_at_zero.imp_right fun stopped => by simp [World.cancelled, stopped.2 zero]
  obtain ⟨same, idle⟩ := later.silent idle cancelled
  refine ⟨?_, same⟩
  rw [(reach.trans later).active_eq, List.countP_eq_zero.2 (by simpa using idle)]
  rfl

/-- The token of a run: it is cancelled with the user's, by the run itself, and as soon as the
printer is done. -/
def tokenCancelled (w : World σ) : Bool := w.cancelled || w.isOver

theorem Reachable.why_token_cancelled {backend : σ} {printer : Printer}
    (reach : Reachable p (World.start p backend printer) w) (token : w.tokenCancelled = true) :
    w.userCancelled = true ∨ w.active = 0 ∨ w.isOver = true := by
  simp only [tokenCancelled, World.cancelled, Bool.or_eq_true] at token
  rcases token with (user | self) | done
  · exact .inl user
  · refine .inr (.inl ?_)
    rcases reach.stops_at_zero with none | stopped
    · rw [reach.active_eq, none]
      rfl
    · exact stopped.1 self
  · exact .inr (.inr done)

/-- In every run the count is the number of followers that stream, and so between zero and the
number of services. Each follower is released once for each start, and one that is gone as often as
it has started. The token of the run is cancelled only with the user's, when the count is zero, or
when the printer is done. Once the count is zero the token is cancelled, the count stays zero, and
no follower does anything that is noted. And only the user cancels for the user. -/
theorem Reachable.counts_streams {backend : σ} {printer : Printer}
    (reach : Reachable p (World.start p backend printer) w) :
    (w.active = (List.range p.services.length).countP w.streams ∧
      0 ≤ w.active ∧ w.active ≤ p.services.length) ∧
    (∀ i < p.services.length, w.releases i ≤ w.starts i ∧ w.starts i ≤ w.releases i + 1) ∧
    (∀ i f, w.followers[i]? = some f → f.isGone = true → w.releases i = w.starts i) ∧
    (w.tokenCancelled = true → w.userCancelled = true ∨ w.active = 0 ∨ w.isOver = true) ∧
    (w.active = 0 → (p.services ≠ [] → w.tokenCancelled = true) ∧
      ∀ w', Reachable p w w' → w'.active = 0 ∧ w'.journal = w.journal) ∧
    ∀ w', Step p w w' → w'.userCancelled = true →
      w.userCancelled = true ∨ w' = { w with userCancelled := true } ∨
        ∃ f ∈ w.followers, f.isCancelling = true := by
  have length := reach.followers_length
  have count := reach.active_eq
  have at_most : w.followers.countP (·.isActive) ≤ p.services.length :=
    length ▸ List.countP_le_length
  refine ⟨⟨reach.countP_streams ▸ count, by omega, by omega⟩, ?_, ?_,
    reach.why_token_cancelled, ?_, fun _ step => step.user_cancels⟩
  · intro i inside
    rw [reach.starts_eq (List.getElem?_eq_getElem (length.symm ▸ inside))]
    split <;> omega
  · intro i f at_i gone
    rw [reach.starts_eq at_i]
    cases stage : f.stage <;> simp_all [Follower.isGone, Follower.isActive]
  · intro zero
    refine ⟨?_, fun _ => reach.silent_at_zero zero⟩
    intro served
    have counted := (counted_start served backend printer).reachable reach
    simp [tokenCancelled, World.cancelled, counted.stopped.2 zero]

theorem pair_counts_streams :
    (pairHistory.state 9).streams 0 = false ∧ (pairHistory.state 9).streams 1 = true ∧
    (pairHistory.state 9).active =
      (List.range pair.services.length).countP (pairHistory.state 9).streams ∧
    (pairHistory.state 9).releases 0 = (pairHistory.state 9).starts 0 := by
  have waits : (pairHistory.state 9).streams 0 = false := by decide +kernel
  have reach : Reachable pair (start pair pairList slow) (pairHistory.state 9) :=
    pairHistory.reachable (by decide)
  obtain ⟨⟨count, -, -⟩, starts, -⟩ := reach.counts_streams
  refine ⟨waits, by decide +kernel, count, ?_⟩
  have := starts 0 (by decide)
  simp only [streams, decide_eq_false_iff_not] at waits
  omega

end World

end Chronicle
