import Chronicle.Proofs.Delivery
import Chronicle.Proofs.Histories
/-!
# Streams that are followed further

When a stream ends, its follower stops being active at once, and becomes active again only when the
container runs again: a run is kept going by streams, and not by waits. A run without an active
follower cancels itself, so a service that waits is followed further exactly when some other
follower is active as long as it waits. That is `History.reads_on_iff`. A service that is alone is
never followed further; `lone_service_is_not_followed` is a run of one whose container would come
back.
-/

namespace Chronicle

/-- A stream is opened. -/
def Deed.isOpening : Deed → Bool
  | .opened _ => true
  | _ => false

/-- The wait ends with the container running. -/
def Awaiting.succeeds (a : Awaiting) : Bool :=
  match a.result with
  | some (.ok ()) => true
  | _ => false

theorem Errand.result_of_returns {α : Type} {e : Errand α} {s : Surroundings} {a : α}
    (h : e.step? s = some (.returns a)) : e.call.result = some a := by
  unfold Errand.step? at h
  split at h
  · cases h
  · split at h
    · obtain ⟨_, result, same⟩ := Option.map_eq_some_iff.1 h
      simpa [result] using same
    · simp at h
    · simp at h
    · split at h <;> simp at h

namespace World

variable {σ : Type} {p : Plan σ} {w w' v : World σ} {i : Nat} {f f' : Follower}
  {deeds old : List Deed} {stage : Stage}

/-! ## What a follower did -/

/-- What one follower did, the first first. -/
def deedsOf (w : World σ) (i : Nat) : List Deed := (w.notesOf i).map Note.deed

/-- The follower of a service waits for its container. -/
def waits (w : World σ) (i : Nat) : Bool := w.followers[i]?.any (·.isWaiting)

/-- Some follower opens, reads or reports a stream. -/
def isBusy (w : World σ) : Bool := w.followers.any (·.isActive)

theorem isBusy_eq_false_iff : w.isBusy = false ↔ ∀ f ∈ w.followers, f.isActive = false := by
  simp [isBusy]

/-- The wait that a follower is in, or is about to start, succeeds. -/
def comesBack (p : Plan σ) (w : World σ) (i : Nat) : Bool :=
  match w.followers[i]? with
  | some { service, stage := .settling _ _, .. } =>
    (p.backend.awaitRunning w.backend service).1.succeeds
  | some { stage := .awaiting e _, .. } => Awaiting.succeeds e.call
  | _ => false

/-- From one state to another, the next stream of a follower was opened and read to its end. -/
def ReadsOn (v w : World σ) (i : Nat) : Prop :=
  ∃ before options between trailing after,
    w.deedsOf i = v.deedsOf i ++
      (before ++ .opened options :: (between ++ .got (.ended trailing) :: after)) ∧
    ∀ d ∈ before ++ between, d.isOpening = false

theorem deedsOf_append {notes : List Note} (h : w.notesOf i = v.notesOf i ++ notes) :
    w.deedsOf i = v.deedsOf i ++ notes.map Note.deed := by
  rw [deedsOf, h, List.map_append, deedsOf]

theorem notesAt_deed : (w.notesAt i deeds).map Note.deed = deeds := by
  simp [notesAt, Function.comp_def]

/-! ## Turns of a follower that waits, and of one that has stopped waiting -/

theorem Turn.opens_nothing (turn : Turn p w f deeds f') (waits : f.isWaiting = true) :
    ∀ d ∈ deeds, d.isOpening = false := by
  cases turn with
  | opens ready => simp [Follower.isWaiting, ready] at waits
  | loses => split <;> simp [Deed.isOpening]
  | _ => simp [Deed.isOpening]

theorem Turn.leaves_cancelled (turn : Turn p w f deeds f') (waits : f.isWaiting = true)
    (cancelled : w.cancelled = true) : deeds = [] ∧ f'.stage = .gone := by
  cases turn with
  | opens h | works h | misses h | reads h | sends h | ends h | breaks h
  | reports h => simp [Follower.isWaiting, h] at waits
  | stops active =>
    cases stage : f.stage <;> simp_all [Follower.isWaiting, Follower.isActive]
  | asks _ _ calm | lingers _ calm | resumes _ calm | loses _ calm => simp [calm] at cancelled
  | leaves => exact ⟨rfl, rfl⟩

/-- A follower that waits in a run that is not cancelled waits on, or becomes active again, or its
wait has failed. -/
theorem Turn.of_waiting (turn : Turn p w f deeds f') (waits : f.isWaiting = true)
    (calm : w.cancelled = false) :
    f'.isWaiting = true ∨ (deeds = [.acquired] ∧ f'.stage = .ready) ∨
      ∃ e ended fault, f.stage = .awaiting e ended ∧ e.call.result = some (.error fault) := by
  cases turn with
  | opens h | works h | misses h | reads h | sends h | ends h | breaks h
  | reports h => simp [Follower.isWaiting, h] at waits
  | stops _ cancelled | leaves _ cancelled => simp [calm] at cancelled
  | asks | lingers => exact .inl rfl
  | resumes => exact .inr (.inl ⟨rfl, rfl⟩)
  | loses waits _ returns =>
    exact .inr (.inr ⟨_, _, _, waits, Errand.result_of_returns returns⟩)

/-- What a follower has done since it became active again, and where it is now: it has not yet
opened its stream, it reads it, or it has read it to the end. -/
inductive Resumed : List Deed → Stage → Prop where
  | ready {deeds : List Deed} (unopened : ∀ d ∈ deeds, d.isOpening = false) : Resumed deeds .ready
  | reading {before between : List Deed} {options : StreamOptions} {c : Courier}
      (once : ∀ d ∈ before ++ between, d.isOpening = false)
      (going : ∀ o receivedAt rest, c = .sending o receivedAt rest → ∃ text, o = .line text) :
      Resumed (before ++ .opened options :: between) (.carrying c)
  | done {before between after : List Deed} {options : StreamOptions} {trailing : Option String}
      {stage : Stage} (once : ∀ d ∈ before ++ between, d.isOpening = false) :
      Resumed (before ++ .opened options :: (between ++ .got (.ended trailing) :: after)) stage

theorem Resumed.turn (h : Resumed old stage) (at_stage : f.stage = stage)
    (turn : Turn p w f deeds f') (calm : f.isActive = true → w.cancelled = false)
    (sound : ∀ d ∈ deeds, d.fails = false) : Resumed (old ++ deeds) f'.stage := by
  cases h with
  | ready unopened =>
    cases turn with
    | opens =>
      have once : ∀ d ∈ old ++ [], d.isOpening = false := by simpa using unopened
      exact .reading once (by simp)
    | stops active cancelled => simp [calm active] at cancelled
    | leaves waits => simp [Follower.isWaiting, at_stage] at waits
    | works h | misses h | reads h | sends h | ends h | breaks h | reports h | asks h | lingers h
    | resumes h | loses h => simp [at_stage] at h
  | @reading before between options c once going =>
    -- What is done between the opening and the end opens nothing.
    have more (quiet : List Deed) (closed : ∀ d ∈ quiet, d.isOpening = false) :
        ∀ d ∈ before ++ (between ++ quiet), d.isOpening = false := by
      rw [← List.append_assoc]
      exact List.forall_mem_append.2 ⟨once, closed⟩
    rw [List.append_assoc, List.cons_append]
    cases turn with
    | works _ quiet =>
      refine .reading (more [] (by simp)) ?_
      cases quiet <;> simp
    | misses => simp [Deed.fails] at sound
    | @reads _ _ o =>
      cases o with
      | line text =>
        refine .reading (more [.got (.line text)] (by simp [Deed.isOpening])) ?_
        rintro _ _ _ ⟨⟩
        exact ⟨text, rfl⟩
      | ended trailing => exact .done once
      | failed fault => simp [Deed.fails] at sound
    | sends => exact .reading (more _ (by simp [Deed.isOpening])) (by simp)
    | ends at_work | breaks at_work =>
      obtain ⟨text, line⟩ := going _ _ _ (Stage.carrying.inj (at_stage.symm.trans at_work))
      cases line
    | stops active cancelled => simp [calm active] at cancelled
    | leaves waits => simp [Follower.isWaiting, at_stage] at waits
    | opens h | reports h | asks h | lingers h | resumes h | loses h => simp [at_stage] at h
  | done once =>
    rw [List.append_assoc, List.cons_append, List.append_assoc, List.cons_append]
    exact .done once

/-- Since some state a follower has resumed. -/
def HasResumed (v w : World σ) (i : Nat) : Prop :=
  ∃ f deeds, w.followers[i]? = some f ∧ w.deedsOf i = v.deedsOf i ++ deeds ∧ Resumed deeds f.stage

/-- A follower that has resumed and is not active any more has read its stream to the end. -/
theorem HasResumed.reads_on (h : HasResumed v w i)
    (idle : ∀ f ∈ w.followers, f.isActive = false) : ReadsOn v w i := by
  obtain ⟨f, deeds, at_i, did, resumed⟩ := h
  have rests := idle f (List.mem_of_getElem? at_i)
  generalize at_stage : f.stage = stage at resumed
  cases resumed with
  | ready | reading => simp [Follower.isActive, at_stage] at rests
  | done once => exact ⟨_, _, _, _, _, did, once⟩

theorem HasResumed.step (h : HasResumed v w i) (step : Step p w w') (counted : Counted w)
    (user : w.userCancelled = false) (sound : ∀ n ∈ w'.journal, n.deed.fails = false) :
    HasResumed v w' i := by
  obtain ⟨f, old, at_i, did, resumed⟩ := h
  rcases step.at_follower at_i with ⟨at_i', notes⟩ | ⟨deeds, f', at_i', turn, notes⟩
  · exact ⟨f, old, at_i', by rw [deedsOf, notes, ← did, deedsOf], resumed⟩
  · have turn_sound : ∀ d ∈ deeds, d.fails = false := by
      intro d mem
      have noted : ⟨i, w.now, d⟩ ∈ w'.notesOf i :=
        notes ▸ List.mem_append_right _ (List.mem_map.2 ⟨d, mem, rfl⟩)
      exact sound _ (by simpa [notesOf] using noted)
    refine ⟨f', old ++ deeds, at_i', ?_, resumed.turn rfl turn (counted.calm user at_i) turn_sound⟩
    rw [deedsOf_append notes, notesAt_deed, did, List.append_assoc]

/-- A follower whose container comes back waits on, or becomes active again. -/
theorem Step.waits_or_resumes (step : Step p w w') (waits : w.waits i = true)
    (calm : w.cancelled = false) (comes : w.comesBack p i = true) :
    w'.waits i = true ∨ w'.deedsOf i = w.deedsOf i ++ [.acquired] ∧
      ∃ f, w'.followers[i]? = some f ∧ f.stage = .ready := by
  obtain ⟨f, at_i, waiting⟩ := (Option.any_eq_true _ _).1 waits
  rcases step.at_follower at_i with ⟨at_i', -⟩ | ⟨deeds, f', at_i', turn, notes⟩
  · exact .inl (by simp [World.waits, at_i', waiting])
  · rcases turn.of_waiting waiting calm with
      still | ⟨rfl, ready⟩ | ⟨e, ended, fault, stage, result⟩
    · exact .inl (by simp [World.waits, at_i', still])
    · exact .inr ⟨by rw [deedsOf_append notes, notesAt_deed], f', at_i', ready⟩
    · obtain ⟨service, options, _⟩ := f
      cases stage
      simp [comesBack, at_i, Awaiting.succeeds, result] at comes

/-! ## Cancelled runs -/

theorem Reachable.deeds_of_cancelled (reach : Reachable p v w) (cancelled : v.cancelled = true)
    (waits : v.waits i = true) : w.deedsOf i = v.deedsOf i := by
  suffices w.cancelled = true ∧ w.deedsOf i = v.deedsOf i ∧
      ∃ f, w.followers[i]? = some f ∧ (f.isWaiting = true ∨ f.isGone = true) from this.2.1
  induction reach with
  | start =>
    obtain ⟨f, at_i, waiting⟩ := (Option.any_eq_true _ _).1 waits
    exact ⟨cancelled, rfl, f, at_i, .inl waiting⟩
  | step _ step ih =>
    obtain ⟨was, same, f, at_i, resting⟩ := ih
    rcases step.at_follower at_i with ⟨at_i', notes⟩ | ⟨deeds, f', at_i', turn, notes⟩
    · exact ⟨step.cancelled was, by rw [deedsOf, notes, ← same, deedsOf], f, at_i', resting⟩
    · rcases resting with waiting | gone
      · obtain ⟨rfl, stage⟩ := turn.leaves_cancelled waiting was
        refine ⟨step.cancelled was, ?_, _, at_i', .inr (by simp [Follower.isGone, stage])⟩
        rw [deedsOf_append notes, notesAt_deed, List.append_nil, same]
      · simp [turn.not_gone] at gone

theorem Counted.cancelled_of_idle (h : Counted w) (idle : w.isBusy = false) :
    w.cancelled = true := by
  have none : w.followers.countP (·.isActive) = 0 :=
    List.countP_eq_zero.2 (by simpa using isBusy_eq_false_iff.1 idle)
  have zero : w.active = 0 := by rw [h.active, none]; rfl
  simp [World.cancelled, h.stopped.2 zero]

/-- While the only service of a run waits nobody is busy. -/
theorem Reachable.idle_of_single {backend : σ} {printer : Printer}
    (reach : Reachable p (World.start p backend printer) w) (single : p.services.length = 1)
    (waits : w.waits i = true) : w.isBusy = false := by
  obtain ⟨f, at_i, waiting⟩ := (Option.any_eq_true _ _).1 waits
  obtain ⟨only, followers⟩ := List.length_eq_one_iff.1 (reach.followers_length.trans single)
  obtain rfl : f = only := by simpa [followers] using List.mem_of_getElem? at_i
  simp [isBusy, followers, idle_of_waiting waiting]

/-! ## Histories of a follower that waits -/

namespace History

variable {w₀ : World σ} (h : History p w₀) {m k l : Nat}

/-- A follower waits at all moments from one to another. -/
def Waits (h : History p w₀) (i m k : Nat) : Prop :=
  ∀ l, m ≤ l → l ≤ k → (h.state l).waits i = true

theorem opens_nothing (inside : k ≤ h.length) (le : m ≤ k) (waits : h.Waits i m k) :
    ∃ deeds, (h.state k).deedsOf i = (h.state m).deedsOf i ++ deeds ∧
      ∀ d ∈ deeds, d.isOpening = false := by
  induction le with
  | refl => exact ⟨[], by simp⟩
  | @step k le ih =>
    obtain ⟨old, did, closed⟩ := ih (by omega) fun l from_m to_k => waits l from_m (by omega)
    have next := waits (k + 1) (Nat.le_succ_of_le le) (Nat.le_refl _)
    obtain ⟨f', at_i', -⟩ := (Option.any_eq_true _ _).1 next
    obtain ⟨f, at_i, ⟨-, notes⟩ | ⟨deeds, turn, notes⟩⟩ :=
      (h.steps k (by omega)).of_follower at_i'
    · exact ⟨old, by rw [deedsOf, notes, ← did, deedsOf], closed⟩
    · have waiting : f.isWaiting = true := by simpa [World.waits, at_i] using waits k le (by omega)
      refine ⟨old ++ deeds, ?_, List.forall_mem_append.2 ⟨closed, turn.opens_nothing waiting⟩⟩
      rw [deedsOf_append notes, notesAt_deed, did, List.append_assoc]

/-- While a follower waits, and some other is active as long as it does, it stops waiting only to
read its next stream. -/
theorem waits_or_resumed (counted : Counted w₀) (user : h.last.userCancelled = false)
    (calm : ∀ n ∈ h.last.journal, n.deed.fails = false) (waits : (h.state m).waits i = true)
    (comes : ∀ k, m ≤ k → k ≤ h.length → h.Waits i m k → (h.state k).comesBack p i = true)
    (busy : ∀ k, m ≤ k → k ≤ h.length → h.Waits i m k → (h.state k).isBusy = true)
    (inside : k ≤ h.length) (le : m ≤ k) :
    h.Waits i m k ∨ HasResumed (h.state m) (h.state k) i := by
  induction le with
  | refl =>
    left
    intro l from_m to_m
    obtain rfl := Nat.le_antisymm from_m to_m
    exact waits
  | @step k le ih =>
    have step := h.steps k (by omega)
    have count := counted.reachable (h.reachable (k := k) (by omega))
    have user := (h.reach_last (k := k) (by omega)).uncancelled user
    rcases ih (by omega) with waiting | resumed
    · -- Somebody is busy, so the run is not cancelled and the service cannot leave.
      have now := waiting k le (Nat.le_refl _)
      obtain ⟨f, mem, active⟩ : ∃ f ∈ (h.state k).followers, f.isActive = true := by
        simpa [isBusy] using busy k le (by omega) waiting
      obtain ⟨j, at_j⟩ := List.mem_iff_getElem?.1 mem
      rcases step.waits_or_resumes now (count.calm user at_j active)
        (comes k le (by omega) waiting) with still | ⟨did, f, at_i, ready⟩
      · left
        intro l from_m to_k
        rcases Nat.lt_or_eq_of_le to_k with before | rfl
        · exact waiting l from_m (by omega)
        · exact still
      · obtain ⟨old, before, closed⟩ := h.opens_nothing (by omega) le waiting
        refine .inr ⟨f, old ++ [.acquired], at_i, by rw [did, before, List.append_assoc], ?_⟩
        rw [ready]
        exact .ready (List.forall_mem_append.2 ⟨closed, by simp [Deed.isOpening]⟩)
    · exact .inr (resumed.step step count user fun n mem =>
        calm n ((h.reach_last inside).journal_suffix.mem mem))

/-- A service whose next stream is opened waits only as long as somebody is busy: once nobody is, the
run is cancelled for good, and what waits then stays closed. -/
theorem busy_of_reads_on (counted : Counted w₀) (reads : ReadsOn (h.state m) h.last i)
    (from_m : m ≤ k) (to_end : k ≤ h.length) (waiting : h.Waits i m k) :
    (h.state k).isBusy = true := by
  obtain ⟨before, options, between, trailing, after, did, -⟩ := reads
  by_contra quiet
  have cancelled : (h.state k).cancelled = true :=
    (counted.reachable (h.reachable to_end)).cancelled_of_idle (by simpa using quiet)
  have last := (h.reach_last to_end).deeds_of_cancelled cancelled (waiting k from_m (Nat.le_refl _))
  obtain ⟨deeds, same, closed⟩ := h.opens_nothing to_end from_m waiting
  rw [last, same, List.append_cancel_left_eq] at did
  simpa [Deed.isOpening] using closed (.opened options) (by simp [did])

/-- At an end at which nobody is busy a service that came back has stopped waiting, and has read its
stream to the end. -/
theorem reads_on_of_busy (counted : Counted w₀) (user : h.last.userCancelled = false)
    (calm : ∀ n ∈ h.last.journal, n.deed.fails = false) (inside : m ≤ h.length)
    (waits : (h.state m).waits i = true) (quiet : h.last.isBusy = false)
    (comes : ∀ k, m ≤ k → k ≤ h.length → h.Waits i m k → (h.state k).comesBack p i = true)
    (busy : ∀ k, m ≤ k → k ≤ h.length → h.Waits i m k → (h.state k).isBusy = true) :
    ReadsOn (h.state m) h.last i := by
  rcases h.waits_or_resumed counted user calm waits comes busy (Nat.le_refl _) inside with
    waiting | resumed
  · have last : h.last.isBusy = true := busy h.length inside (Nat.le_refl _) waiting
    simp [quiet] at last
  · exact resumed.reads_on (isBusy_eq_false_iff.1 quiet)

/-- In a run that is over, that the user did not cancel, and in which no stream failed, let a
service wait whose container comes back. Its next stream is opened, read to the end and printed if
and only if some other service is busy as long as it waits. A wait alone does not keep a run going:
whenever nobody is busy the run is cancelled, and nobody is when it is over. So a single service is
not followed further. -/
theorem reads_on_iff {backend : σ} {printer : Printer}
    (h : History p (World.start p backend printer)) (served : p.services ≠ [])
    (fresh : printer.Fresh) (done : h.last.isOver = true) (user : h.last.userCancelled = false)
    (calm : ∀ n ∈ h.last.journal, n.deed.fails = false) (inside : m ≤ h.length)
    (waits : (h.state m).waits i = true)
    (comes : ∀ k, m ≤ k → k ≤ h.length → h.Waits i m k → (h.state k).comesBack p i = true) :
    ((ReadsOn (h.state m) h.last i ∧
        Delivered p (World.start p backend printer).printer h.last) ↔
      ∀ k, m ≤ k → k ≤ h.length → h.Waits i m k → (h.state k).isBusy = true) ∧
    (∀ k ≤ h.length, (h.state k).isBusy = false → (h.state k).cancelled = true) ∧
    h.last.isBusy = false ∧
    (p.services.length = 1 → ¬ ReadsOn (h.state m) h.last i) := by
  have counted := counted_start served backend printer
  have reach := h.reachable (Nat.le_refl _)
  have finished := reach.finished_of_calm served user fresh done calm
  have quiet : h.last.isBusy = false :=
    isBusy_eq_false_iff.2 (reach.finished served fresh user finished).2
  refine ⟨⟨fun reads k => h.busy_of_reads_on counted reads.1, fun busy => ?_⟩, ?_, quiet, ?_⟩
  · exact ⟨h.reads_on_of_busy counted user calm inside waits quiet comes busy,
      reach.delivered served fresh user finished⟩
  · intro k to_end idle
    exact (counted.reachable (h.reachable to_end)).cancelled_of_idle idle
  · intro single reads
    have waiting : h.Waits i m m := fun l from_m to_m => Nat.le_antisymm from_m to_m ▸ waits
    have busy := h.busy_of_reads_on counted reads (Nat.le_refl _) inside waiting
    simp [(h.reachable inside).idle_of_single single waits] at busy

end History

/-- The run of the pair, in which the first service waits from moment 9 to 16. -/
def pairHistory : History pair (start pair pairList slow) :=
  .scheduled pair none 100000 31 _ (by decide +kernel)

theorem pair_reads_on :
    (pairHistory.state 9).waits 0 = true ∧ ReadsOn (pairHistory.state 9) pairHistory.last 0 := by
  have waits : (pairHistory.state 9).waits 0 = true := by decide +kernel
  have ready : ∀ k, pairHistory.Waits 0 9 k → k < 17 := by
    intro k waiting
    by_contra late
    exact absurd (waiting 17 (by omega) (by omega)) (by decide +kernel)
  have comes : ∀ k < 17, 9 ≤ k → (pairHistory.state k).comesBack pair 0 = true := by
    decide +kernel
  have busy : ∀ k < 17, 9 ≤ k → (pairHistory.state k).isBusy = true := by decide +kernel
  refine ⟨waits, ((pairHistory.reads_on_iff (m := 9) (i := 0) (by decide) slow_fresh pairEnd_isOver
    (by decide +kernel) (by decide +kernel) (by decide) waits ?_).1.2 ?_).1⟩
  · exact fun k from_9 _ waiting => comes k (ready k waiting) from_9
  · exact fun k from_9 _ waiting => busy k (ready k waiting) from_9

/-! ## A service that is alone -/

/-- A single service whose container comes back after a second. -/
def lone : Plan Playlist where
  backend := Playlist.backend
  services := ["web"]
  follow := true
  settle := 500
  capacity := queueCapacity 1 8
  start := ⟨1700000000, 0⟩

/-- A stream before the container stops, and one for when it is back. -/
def loneList : Playlist where
  streams := [("web",
    [{ result := some (.ok [{ result := some (.line "one") }, { result := some (.ended none) }]) },
      { result :=
        some (.ok [{ result := some (.line "two") }, { result := some (.ended none) }]) }])]
  restarts := [("web", [{ delays := [.pause 1000], result := some (.ok ()) }])]

/-- Its run. At moment 9 the stream has ended, and the printer has one thing left to do. -/
def loneHistory : History lone (start lone loneList slow) :=
  .scheduled lone none 100000 10 _ (by decide +kernel)

/-- The run is over although the container would come back, and the second stream is not opened. -/
theorem lone_service_is_not_followed :
    lone.follow = true ∧ slow.Fresh ∧ loneHistory.last.isOver = true ∧
    loneHistory.last.userCancelled = false ∧
    (∀ n ∈ loneHistory.last.journal, n.deed.fails = false) ∧
    (loneHistory.state 9).waits 0 = true ∧
    (∀ k, 9 ≤ k → k ≤ loneHistory.length → (loneHistory.state k).comesBack lone 0 = true) ∧
    ¬ ReadsOn (loneHistory.state 9) loneHistory.last 0 := by
  have done : ((start lone loneList slow).runFor lone none 100000 10).isOver = true :=
    over_of_cancelled 9 (by decide +kernel) (by decide +kernel)
  have comes : ∀ k ≤ 10, 9 ≤ k → (loneHistory.state k).comesBack lone 0 = true := by decide +kernel
  have same : loneHistory.last.deedsOf 0 = (loneHistory.state 9).deedsOf 0 := by decide +kernel
  refine ⟨rfl, slow_fresh, done, by decide +kernel, by decide +kernel, by decide +kernel,
    fun k from_9 to_10 => comes k to_10 from_9, ?_⟩
  rintro ⟨before, options, between, trailing, after, did, -⟩
  simp [same] at did

end World

end Chronicle
