import Chronicle.Proofs.Progress
/-!
# Shutdown

A follower looks for cancellation between two reads and before it waits for its container, but not
while a stream is opened or a read goes on, and a record that it offers may still be taken. So once
the run is cancelled a follower may still open the stream it was about to open and queue one record,
and that is all: `Reachable.shuts_down`. The records that are left to drain are bounded with that,
also when they are taken one by one while followers go on (`Drain`).
-/

namespace Chronicle

/-- A record is put on the queue. -/
def Deed.queues (d : Deed) : Bool := d.record?.isSome

namespace Follower

/-- The follower of a cancelled run may still queue a record: of the read that it has made, or that
the stream it opens cannot be opened. -/
def mayQueue (f : Follower) : Bool :=
  match f.stage with
  | .ready | .reporting _ => true
  | .carrying (.opening _) | .carrying (.reading _ _) | .carrying (.sending _ _ _) => true
  | .carrying (.between _) | .settling _ _ | .awaiting _ _ | .gone => false

/-- The follower of a cancelled run may still open a stream: it was about to. -/
def mayOpen (f : Follower) : Bool :=
  match f.stage with
  | .ready => true
  | _ => false

end Follower

namespace World

variable {σ : Type} {p : Plan σ} {w w' u v : World σ} {i : Nat} {f f' g : Follower}
  {deeds more : List Deed} {taken : List RawRecord}

/-! ## What is left to a follower -/

/-- What a follower did used up what it may still do, and it did not wait for its container. -/
structure WindsDown (deeds : List Deed) (f f' : Follower) : Prop where
  queued : deeds.countP Deed.queues + f'.mayQueue.toNat ≤ f.mayQueue.toNat
  opened : deeds.countP Deed.isOpening + f'.mayOpen.toNat ≤ f.mayOpen.toNat
  awaited : .awaited ∉ deeds

theorem WindsDown.refl (f : Follower) : WindsDown [] f f := ⟨by simp, by simp, by simp⟩

theorem WindsDown.trans (first : WindsDown deeds f f') (second : WindsDown more f' g) :
    WindsDown (deeds ++ more) f g where
  queued := by
    have := first.queued
    have := second.queued
    rw [List.countP_append]
    omega
  opened := by
    have := first.opened
    have := second.opened
    rw [List.countP_append]
    omega
  awaited := by simp [first.awaited, second.awaited]

theorem restStage_spent : ({ f with stage := restStage p w } : Follower).mayQueue = false ∧
    ({ f with stage := restStage p w } : Follower).mayOpen = false := by
  by_cases follow : p.follow = true <;>
    simp [restStage, Follower.mayQueue, Follower.mayOpen, follow]

theorem Turn.winds_down (turn : Turn p w f deeds f') (cancelled : w.cancelled = true) :
    WindsDown deeds f f' := by
  cases turn with
  | opens at_stage | misses at_stage | reads at_stage | sends at_stage | breaks at_stage
  | reports at_stage =>
    constructor <;> simp [List.countP_cons, Deed.queues, Deed.record?, Deed.isOpening,
      Follower.mayQueue, Follower.mayOpen, at_stage]
  | works at_work quiet =>
    cases quiet with
    | asks calm =>
      -- No read is started in a cancelled run.
      have : w.cancelled = false := calm
      simp [this] at cancelled
    | opening | opened | reading =>
      constructor <;> simp [Follower.mayQueue, Follower.mayOpen, at_work]
  | ends at_work =>
    have may : f.mayQueue = true := by simp [Follower.mayQueue, at_work]
    constructor <;> simp [List.countP_cons, Deed.queues, Deed.record?, Deed.isOpening, may,
      restStage_spent]
  | @stops stage _ _ rests =>
    have spent : ({ f with stage } : Follower).mayQueue = false ∧
        ({ f with stage } : Follower).mayOpen = false := by
      rcases rests with rfl | ⟨-, rfl⟩
      · exact ⟨rfl, rfl⟩
      · exact restStage_spent
    constructor <;> simp [Deed.queues, Deed.record?, Deed.isOpening, spent]
  | leaves => constructor <;> simp [Follower.mayQueue, Follower.mayOpen]
  | asks _ _ calm | lingers _ calm | resumes _ calm | loses _ calm => simp [calm] at cancelled

/-! ## Draining -/

/-- A run that goes on while records are taken off its queue one by one; `taken` are these. -/
inductive Drain (p : Plan σ) (v : World σ) : List RawRecord → World σ → Prop where
  | start : Drain p v [] v
  | goesOn {taken : List RawRecord} {w w' : World σ} (before : Drain p v taken w)
      (step : Step p w w') : Drain p v taken w'
  | takes {taken : List RawRecord} {w : World σ} {r : RawRecord} (before : Drain p v taken w)
      (head : w.queue.head? = some r) : Drain p v (taken ++ [r]) { w with queue := w.queue.tail }

theorem Drain.trans (first : Drain p v taken u) (reach : Reachable p u w) : Drain p v taken w := by
  induction reach with
  | start => exact first
  | step _ step ih => exact ih.goesOn step

theorem Step.going (step : Step p w w') : w.isOver = false := by
  cases step <;> assumption

theorem Step.cancelled_of_token (step : Step p w w') (token : w.tokenCancelled = true) :
    w.cancelled = true := by
  simpa [tokenCancelled, step.going] using token

theorem Drain.token (drain : Drain p v taken w) (token : v.tokenCancelled = true) :
    w.tokenCancelled = true := by
  induction drain with
  | start => exact token
  | goesOn _ step ih => simp [tokenCancelled, step.cancelled (step.cancelled_of_token ih)]
  | takes _ _ ih => exact ih

/-- What a follower does in a cancelled run, to the end of it. -/
theorem Drain.winds_down (drain : Drain p v taken w) (token : v.tokenCancelled = true)
    (at_i : v.followers[i]? = some f) :
    ∃ more f', w.followers[i]? = some f' ∧ w.deedsOf i = v.deedsOf i ++ more ∧
      WindsDown more f f' := by
  induction drain with
  | start => exact ⟨[], f, at_i, by simp, .refl f⟩
  | @goesOn taken w w' before step ih =>
    obtain ⟨more, g, at_g, did, spent⟩ := ih
    rcases step.at_follower at_g with ⟨at_g', notes⟩ | ⟨deeds, g', at_g', turn, notes⟩
    · -- Somebody else moved.
      exact ⟨more, g, at_g', by rw [deedsOf, notes, ← did, deedsOf], spent⟩
    · have cancelled := step.cancelled_of_token (before.token token)
      refine ⟨more ++ deeds, g', at_g', ?_, spent.trans (turn.winds_down cancelled)⟩
      rw [deedsOf_append notes, notesAt_deed, did, List.append_assoc]
  | takes _ _ ih => exact ih

theorem queue_length_of_deeds (moved : Moved w i deeds f' w') :
    w'.queue.length = w.queue.length + deeds.countP Deed.queues := by
  rw [moved.queue, List.length_append, List.length_filterMap_eq_countP]
  rfl

/-- A step of a cancelled run never adds to the records that are queued or may still be. -/
theorem Step.queue_length_le (step : Step p w w') (cancelled : w.cancelled = true) :
    w'.queue.length + w'.followers.countP (·.mayQueue) ≤
      w.queue.length + w.followers.countP (·.mayQueue) := by
  cases step with
  | follower _ at_i move =>
    -- What the follower adds to the queue it may not add again.
    obtain ⟨deeds, f', turn, moved⟩ := turn_of_mem at_i move
    have queue := queue_length_of_deeds moved
    have count := moved.countP at_i (·.mayQueue)
    have spent := (turn.winds_down cancelled).queued
    omega
  | printer _ move =>
    obtain ⟨event, sees, rfl⟩ := Option.map_eq_some_iff.1 move
    have split := congrArg List.length (Printer.taken_append_leaves sees)
    rw [List.length_append] at split
    have left : (event.leaves w.queue).length ≤ w.queue.length := by omega
    exact Nat.add_le_add_right left _
  | userCancels => exact Nat.le_refl _
  | timePasses => exact Nat.le_refl _

theorem Drain.length_le (drain : Drain p v taken w) (token : v.tokenCancelled = true) :
    taken.length + w.queue.length + w.followers.countP (·.mayQueue) ≤
      v.queue.length + v.followers.countP (·.mayQueue) := by
  induction drain with
  | start => simp
  | goesOn before step ih =>
    have := step.queue_length_le (step.cancelled_of_token (before.token token))
    omega
  | takes _ head ih =>
    have filled := List.length_pos_of_mem (List.mem_of_head? head)
    simp only [List.length_append, List.length_singleton, List.length_tail]
    omega

/-! ## The bounds -/

/-- Once the token of a run is cancelled, each follower queues at most one more record, opens at
most one more stream and waits for its container no more, however the records that are queued are
taken while followers go on. In all these are no more than were queued when the token was cancelled,
and one for each follower. The next thing the printer does is to take all that is queued, and be
done. -/
theorem Reachable.shuts_down {backend : σ} {printer : Printer}
    (reach : Reachable p (World.start p backend printer) w) (token : w.tokenCancelled = true) :
    (∀ taken w', Drain p w taken w' →
      (∀ i < p.services.length, ∃ more, w'.deedsOf i = w.deedsOf i ++ more ∧
        more.countP Deed.queues ≤ 1 ∧ more.countP Deed.isOpening ≤ 1 ∧ .awaited ∉ more) ∧
      taken.length + w'.queue.length ≤ w.queue.length + p.services.length) ∧
    ∀ w', Reachable p w w' → w'.isOver = false →
      ∃ done, w'.printerMove? = some done ∧ done.queue = [] ∧ done.isOver = true := by
  refine ⟨fun taken w' drain => ⟨?_, ?_⟩, ?_⟩
  · intro i inside
    rw [← reach.followers_length] at inside
    obtain ⟨more, f', -, did, spent⟩ := drain.winds_down token (List.getElem?_eq_getElem inside)
    have queued := spent.queued
    have opened := spent.opened
    have may_queue := Bool.toNat_le w.followers[i].mayQueue
    have may_open := Bool.toNat_le w.followers[i].mayOpen
    exact ⟨more, did, by omega, by omega, spent.awaited⟩
  · have bound := drain.length_le token
    have followers : w.followers.countP (·.mayQueue) ≤ p.services.length :=
      reach.followers_length ▸ List.countP_le_length
    omega
  · intro w' later going
    have cancelled : w'.cancelled = true := by
      simpa [tokenCancelled, going] using (Drain.start.trans later).token token
    exact printerMove?_of_cancelled cancelled

/-- The user cancels while one follower waits for room in the queue and the other is about to open
its stream. -/
def stopped : World Playlist :=
  { (start crowded crowdedList slow).moveFor crowded 10 with userCancelled := true }

theorem stopped_reachable : Reachable crowded (start crowded crowdedList slow) stopped :=
  (reachable_moveFor 10 rfl).step (.userCancels (by decide +kernel))

/-- Each time that a record is taken a follower queues another. -/
def drained : World Playlist :=
  let one := World.moveFor crowded 4 { stopped with queue := stopped.queue.tail }
  World.moveFor crowded 1 { one with queue := one.queue.tail }

theorem drain_drained : Drain crowded stopped
    [.data "web" "one" ⟨1700000000, 0⟩, .data "web" "two" ⟨1700000000, 0⟩] drained := by
  have first := Drain.start.takes (p := crowded) (v := stopped)
    (r := .data "web" "one" ⟨1700000000, 0⟩) (by decide +kernel)
  have second := (first.trans (reachable_moveFor 4 (by decide +kernel))).takes
    (r := .data "web" "two" ⟨1700000000, 0⟩) (by decide +kernel)
  exact second.trans (reachable_moveFor 1 (by decide +kernel))

theorem stopped_shuts_down :
    (drained.deedsOf 1).countP Deed.queues = 1 ∧ (∃ more,
      drained.deedsOf 1 = stopped.deedsOf 1 ++ more ∧ more.countP Deed.queues ≤ 1 ∧
        more.countP Deed.isOpening ≤ 1 ∧ .awaited ∉ more) ∧
    drained.queue.length = 2 ∧ 2 + drained.queue.length ≤ stopped.queue.length + 2 ∧
    ∃ done, stopped.printerMove? = some done ∧ done.queue = [] ∧ done.isOver = true := by
  obtain ⟨drains, ends⟩ := stopped_reachable.shuts_down (by decide +kernel)
  obtain ⟨spent, bound⟩ := drains _ _ drain_drained
  exact ⟨by decide +kernel, spent 1 (by decide), by decide +kernel, bound,
    ends _ .start (by decide +kernel)⟩

end World

end Chronicle
