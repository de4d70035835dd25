import Chronicle.Proofs.Moves
import Chronicle.Run.World
/-!
# Turns

`World.followerMoves` says what a follower can do as a list of worlds. Here it is said once more as
a relation, one constructor for each thing a follower can do: `World.Turn` tells what is noted of
the follower and what becomes of it, and `World.Moved` how that changes the rest of the run.
Everything else about runs is derived from `World.turn_of_mem` and never unfolds the moves.
-/

namespace Chronicle

/-- The record that a deed puts on the queue. -/
def Deed.record? : Deed → Option RawRecord
  | .queued r => some r
  | _ => none

/-- What a deed adds to the number of active followers. -/
def Deed.gain : Deed → Int
  | .acquired => 1
  | .released => -1
  | _ => 0

/-- What several deeds add together. -/
def Deed.gains : List Deed → Int
  | [] => 0
  | deed :: rest => deed.gain + gains rest

@[simp]
theorem Deed.gains_nil : Deed.gains [] = 0 := rfl

@[simp]
theorem Deed.gains_cons (deed : Deed) (rest : List Deed) :
    Deed.gains (deed :: rest) = deed.gain + Deed.gains rest := rfl

namespace Follower

/-- The follower waits for its container to run again. -/
def isWaiting (f : Follower) : Bool :=
  match f.stage with
  | .settling _ _ | .awaiting _ _ => true
  | _ => false

/-- The follower's stream is open, and what it has last read of it is not a failure. -/
def isSound (f : Follower) : Bool :=
  match f.stage with
  | .carrying (.between _) => true
  | .carrying (.sending (.line _) _ _) | .carrying (.sending (.ended _) _ _) => true
  | _ => false

/-- The record of what the follower has read, or could not open, and has not queued yet. -/
def held (f : Follower) : List RawRecord :=
  match f.stage with
  | .carrying (.sending o receivedAt _) => [Courier.recordOf f.service receivedAt o]
  | .reporting fault => [.failure f.service fault]
  | _ => []

end Follower

namespace World

variable {σ : Type} {p : Plan σ} {w w' : World σ} {i : Nat} {f f' : Follower} {deeds : List Deed}

/-- What a follower does after a stream that ended: it settles, if streams are followed. -/
def restStage (p : Plan σ) (w : World σ) : Stage :=
  if p.follow then .settling (w.now + p.settle) (p.start.later w.now) else .gone

/-- The things a follower can do in one move: what is noted of it, and the follower afterwards. -/
inductive Turn (p : Plan σ) (w : World σ) (f : Follower) : List Deed → Follower → Prop where
  | opens (ready : f.stage = .ready) :
      Turn p w f [.opened f.options]
        { f with
          stage := .carrying (.opening
            ⟨w.now, (p.backend.openStream w.backend f.service f.options).1⟩) }
  | works {c c' : Courier} (at_work : f.stage = .carrying c)
      (quiet : Courier.Quiet (w.surroundings p) c c') :
      Turn p w f [] { f with stage := .carrying c' }
  | misses {e : Errand (Except Fault Script)} {fault : Fault}
      (at_work : f.stage = .carrying (.opening e))
      (returns : e.step? (w.surroundings p) = some (.returns (.error fault))) :
      Turn p w f [.notOpened fault] { f with stage := .reporting fault }
  | reads {e : Errand Outcome} {rest : Script} {o : Outcome}
      (at_work : f.stage = .carrying (.reading e rest))
      (returns : e.step? (w.surroundings p) = some (.returns o)) :
      Turn p w f [.got o] { f with stage := .carrying (.sending o (p.start.later w.now) rest) }
  | sends {text : String} {receivedAt : Instant} {rest : Script}
      (at_work : f.stage = .carrying (.sending (.line text) receivedAt rest))
      (room : w.queue.length < p.capacity) :
      Turn p w f [.queued (.data f.service text receivedAt)]
        { f with stage := .carrying (.between rest) }
  | ends {trailing : Option String} {receivedAt : Instant} {rest : Script}
      (at_work : f.stage = .carrying (.sending (.ended trailing) receivedAt rest))
      (room : w.queue.length < p.capacity) :
      Turn p w f [.queued (.terminal f.service trailing receivedAt), .released]
        { f with stage := restStage p w }
  | breaks {fault : Fault} {receivedAt : Instant} {rest : Script}
      (at_work : f.stage = .carrying (.sending (.failed fault) receivedAt rest))
      (room : w.queue.length < p.capacity) :
      Turn p w f [.queued (.failure f.service fault), .released] { f with stage := .gone }
  | reports {fault : Fault} (at_work : f.stage = .reporting fault)
      (room : w.queue.length < p.capacity) :
      Turn p w f [.queued (.failure f.service fault), .released] { f with stage := .gone }
  | stops {stage : Stage} (active : f.isActive = true) (cancelled : w.cancelled = true)
      (rests : stage = .gone ∨ (f.isSound = true ∧ stage = restStage p w)) :
      Turn p w f [.released] { f with stage }
  | asks {wake : Nat} {ended : Instant} (settled : f.stage = .settling wake ended)
      (due : wake ≤ w.now) (calm : w.cancelled = false) :
      Turn p w f [.awaited]
        { f with
          stage := .awaiting ⟨w.now, (p.backend.awaitRunning w.backend f.service).1⟩ ended }
  | lingers {e e' : Errand (Except WatchFault Unit)} {ended : Instant}
      (waits : f.stage = .awaiting e ended) (calm : w.cancelled = false)
      (goes : e.step? (w.surroundings p) = some (.waits e') ∨
        e.step? (w.surroundings p) = some (.cancels e')) :
      Turn p w f [] { f with stage := .awaiting e' ended }
  | leaves (waits : f.isWaiting = true) (cancelled : w.cancelled = true) :
      Turn p w f [] { f with stage := .gone }
  | resumes {e : Errand (Except WatchFault Unit)} {ended : Instant}
      (waits : f.stage = .awaiting e ended) (calm : w.cancelled = false)
      (returns : e.step? (w.surroundings p) = some (.returns (.ok ()))) :
      Turn p w f [.acquired]
        { f with
          stage := .ready
          options := { f.options with previous := false, since := some ended } }
  | loses {e : Errand (Except WatchFault Unit)} {ended : Instant} {fault : WatchFault}
      (waits : f.stage = .awaiting e ended) (calm : w.cancelled = false)
      (returns : e.step? (w.surroundings p) = some (.returns (.error fault))) :
      Turn p w f (if fault = .cancelled then [] else [.lost fault]) { f with stage := .gone }

/-- How a move of a follower changes the run, given what is noted of it. -/
structure Moved (w : World σ) (i : Nat) (deeds : List Deed) (f' : Follower) (w' : World σ) :
    Prop where
  now : w'.now = w.now
  printer : w'.printer = w.printer
  followers : w'.followers = w.followers.set i f'
  journal : w'.journal = (deeds.map fun deed => ⟨i, w.now, deed⟩).reverse ++ w.journal
  queue : w'.queue = w.queue ++ deeds.filterMap Deed.record?
  active : w'.active = w.active + Deed.gains deeds
  selfCancelled : w'.selfCancelled =
    (w.selfCancelled || (decide (Deed.released ∈ deeds) && w.active == 1))
  userCancelled : w.userCancelled = true → w'.userCancelled = true

theorem modify_eq_set {l : List Follower} {i : Nat} {f : Follower} (at_i : l[i]? = some f)
    (change : Follower → Follower) : l.modify i change = l.set i (change f) := by
  apply List.ext_getElem?
  intro j
  rw [List.getElem?_modify, List.getElem?_set]
  by_cases same : i = j
  · subst same
    obtain ⟨bound, rfl⟩ := List.getElem?_eq_some_iff.1 at_i
    simp [bound]
  · simp [same]

/-- Changes to the backend, and the user's cancelling, are no concern of the account. -/
theorem Moved.congr {v : World σ} (h : Moved w i deeds f' v) (now : w'.now = v.now)
    (printer : w'.printer = v.printer) (followers : w'.followers = v.followers)
    (journal : w'.journal = v.journal) (queue : w'.queue = v.queue) (active : w'.active = v.active)
    (selfCancelled : w'.selfCancelled = v.selfCancelled)
    (userCancelled : v.userCancelled = true → w'.userCancelled = true) : Moved w i deeds f' w' :=
  ⟨now.trans h.now, printer.trans h.printer, followers.trans h.followers, journal.trans h.journal,
    queue.trans h.queue, active.trans h.active, selfCancelled.trans h.selfCancelled,
    fun before => userCancelled (h.userCancelled before)⟩

theorem afterStream_ok (w : World σ) (i : Nat) :
    w.afterStream p i (.ok ()) = (w.release i).setStage i (restStage p w) := by
  by_cases follow : p.follow = true
  · simp [afterStream, restStage, follow]
  · simp [afterStream, restStage, follow, leave]

section Moves

variable (at_i : w.followers[i]? = some f)
include at_i

theorem moved_setStage (stage : Stage) : Moved w i [] { f with stage } (w.setStage i stage) := by
  constructor <;> simp [setStage, modify_eq_set at_i]

theorem moved_silent {act : Act} (stage : Stage) (brings : act.outcome? = none)
    (puts : act.record? = none) :
    Moved w i [] { f with stage } ((w.perform i act).setStage i stage) := by
  cases act with
  | nothing | read => exact moved_setStage at_i stage
  | cancel => exact (moved_setStage at_i stage).congr rfl rfl rfl rfl rfl rfl rfl fun _ => rfl
  | got => cases brings
  | queue => cases puts

theorem moved_note (deed : Deed) (stage : Stage) (silent : deed.record? = none)
    (even : deed.gain = 0) :
    Moved w i [deed] { f with stage } ((w.note i deed).setStage i stage) := by
  have keeps : Deed.released ∉ [deed] := by
    intro h
    rw [List.mem_singleton] at h
    simp [← h, Deed.gain] at even
  constructor <;> simp [setStage, note, modify_eq_set at_i, silent, even, keeps]

theorem moved_release (stage : Stage) :
    Moved w i [.released] { f with stage } ((w.release i).setStage i stage) := by
  constructor <;>
    simp [setStage, release, note, modify_eq_set at_i, Deed.record?, Deed.gain, Int.sub_eq_add_neg]

theorem moved_queue (r : RawRecord) (stage : Stage) :
    Moved w i [.queued r] { f with stage } ((w.perform i (.queue r)).setStage i stage) := by
  constructor <;> simp [setStage, perform, note, modify_eq_set at_i, Deed.record?, Deed.gain]

theorem moved_queue_release (r : RawRecord) (stage : Stage) :
    Moved w i [.queued r, .released] { f with stage }
      (((w.perform i (.queue r)).release i).setStage i stage) := by
  constructor <;>
    simp [setStage, perform, release, note, modify_eq_set at_i, Deed.record?, Deed.gain,
      Int.sub_eq_add_neg]

theorem turn_of_refused {o : Outcome} (active : f.isActive = true) (cancelled : w.cancelled = true)
    (sound : Courier.refused o = .ok () → f.isSound = true)
    (move : w' = w.afterStream p i (Courier.refused o)) :
    ∃ deeds f', Turn p w f deeds f' ∧ Moved w i deeds f' w' := by
  cases o with
  | failed fault =>
    exact ⟨_, _, .stops active cancelled (.inl rfl), move ▸ moved_release at_i _⟩
  | line _ | ended _ =>
    refine ⟨_, _, .stops active cancelled (.inr ⟨sound rfl, rfl⟩), ?_⟩
    rw [move]
    simp only [Courier.refused, afterStream_ok]
    exact moved_release at_i _

/-! ## One lemma for each stage -/

theorem turn_of_carrying {c : Courier} (at_work : f.stage = .carrying c)
    (move : w' ∈ w.followerMoves p i f) :
    ∃ deeds f', Turn p w f deeds f' ∧ Moved w i deeds f' w' := by
  simp only [followerMoves, at_work, List.mem_map, Prod.exists] at move
  obtain ⟨after, act, mem, rfl⟩ := move
  cases Courier.move_of_mem mem with
  | quiet quiet brings puts => exact ⟨_, _, .works at_work quiet, moved_silent at_i _ brings puts⟩
  | misses returns => exact ⟨_, _, .misses at_work returns, moved_note at_i _ _ rfl rfl⟩
  | reads returns => exact ⟨_, _, .reads at_work returns, moved_note at_i _ _ rfl rfl⟩
  | @queues o _ _ _ room =>
    have room : w.queue.length < p.capacity := by simpa [surroundings] using room
    cases o with
    | line text => exact ⟨_, _, .sends at_work room, moved_queue at_i _ _⟩
    | ended trailing =>
      refine ⟨_, _, .ends at_work room, ?_⟩
      simp only [Courier.accepted, afterStream_ok]
      exact moved_queue_release at_i _ _
    | failed fault => exact ⟨_, _, .breaks at_work room, moved_queue_release at_i _ _⟩
  | stops cancelled =>
    exact turn_of_refused at_i (o := .ended none) (by simp [Follower.isActive, at_work]) cancelled
      (fun _ => by simp [Follower.isSound, at_work]) rfl
  | @givesUp o _ _ why =>
    have cancelled : w.cancelled = true := by simpa [surroundings] using why
    refine turn_of_refused at_i (o := o) (by simp [Follower.isActive, at_work]) cancelled ?_ rfl
    cases o <;> simp [Courier.refused, Follower.isSound, at_work]

theorem turn_of_reporting {fault : Fault} (at_work : f.stage = .reporting fault)
    (move : w' ∈ w.followerMoves p i f) :
    ∃ deeds f', Turn p w f deeds f' ∧ Moved w i deeds f' w' := by
  have active : f.isActive = true := by simp [Follower.isActive, at_work]
  simp only [followerMoves, at_work, Courier.offers, surroundings, Bool.false_eq_true, if_false,
    decide_eq_true_eq, List.mem_append] at move
  rcases move with move | move
  · split at move
    · obtain rfl : w' = _ := by simpa using move
      exact ⟨_, _, .reports at_work ‹_›, moved_queue_release at_i _ _⟩
    · cases move
  · split at move
    · obtain rfl : w' = _ := by simpa using move
      exact ⟨_, _, .stops active ‹_› (.inl rfl), moved_release at_i _⟩
    · cases move

theorem turn_of_settling {wake : Nat} {ended : Instant} (settled : f.stage = .settling wake ended)
    (move : w' ∈ w.followerMoves p i f) :
    ∃ deeds f', Turn p w f deeds f' ∧ Moved w i deeds f' w' := by
  simp only [followerMoves, settled] at move
  split at move
  · cases move
  · split at move
    · obtain rfl : w' = _ := by simpa using move
      exact ⟨_, _, .leaves (by simp [Follower.isWaiting, settled]) ‹_›, moved_setStage at_i _⟩
    · obtain rfl : w' = _ := by simpa using move
      exact ⟨_, _, .asks settled (by omega) (by simpa using ‹¬ w.cancelled = true›),
        (moved_note at_i .awaited _ rfl rfl).congr rfl rfl rfl rfl rfl rfl rfl id⟩

theorem turn_of_result {e : Errand (Except WatchFault Unit)} {ended : Instant}
    {result : Except WatchFault Unit} (waits : f.stage = .awaiting e ended)
    (calm : w.cancelled = false)
    (returns : e.step? (w.surroundings p) = some (.returns result)) :
    ∃ deeds f', Turn p w f deeds f' ∧ Moved w i deeds f' (w.afterWait i ended result) := by
  rcases result with fault | ⟨⟩
  · refine ⟨_, _, .loses waits calm returns, ?_⟩
    cases fault with
    | cancelled => exact moved_setStage at_i _
    | closed | failed _ => exact moved_note at_i _ _ rfl rfl
  · refine ⟨_, _, .resumes waits calm returns, ?_⟩
    constructor <;> simp [afterWait, acquire, note, modify_eq_set at_i, Deed.record?, Deed.gain]

theorem turn_of_awaiting {e : Errand (Except WatchFault Unit)} {ended : Instant}
    (waits : f.stage = .awaiting e ended) (move : w' ∈ w.followerMoves p i f) :
    ∃ deeds f', Turn p w f deeds f' ∧ Moved w i deeds f' w' := by
  simp only [followerMoves, waits] at move
  split at move
  · obtain rfl : w' = _ := by simpa using move
    exact ⟨_, _, .leaves (by simp [Follower.isWaiting, waits]) ‹_›, moved_setStage at_i _⟩
  · have calm : w.cancelled = false := by simpa using ‹¬ w.cancelled = true›
    split at move
    · cases move
    · obtain rfl : w' = _ := by simpa using move
      exact ⟨_, _, .lingers waits calm (.inl ‹_›), moved_setStage at_i _⟩
    · obtain rfl : w' = _ := by simpa using move
      exact ⟨_, _, .lingers waits calm (.inr ‹_›),
        (moved_setStage at_i _).congr rfl rfl rfl rfl rfl rfl rfl fun _ => rfl⟩
    · obtain rfl : w' = _ := by simpa using move
      exact turn_of_result at_i waits calm ‹_›

/-- Every move of a follower is one of its turns. -/
theorem turn_of_mem (move : w' ∈ w.followerMoves p i f) :
    ∃ deeds f', Turn p w f deeds f' ∧ Moved w i deeds f' w' := by
  cases stage : f.stage with
  | ready =>
    obtain rfl : w' = _ := by simpa [followerMoves, stage] using move
    exact ⟨_, _, .opens stage,
      (moved_note at_i (.opened f.options) _ rfl rfl).congr rfl rfl rfl rfl rfl rfl rfl id⟩
  | carrying c => exact turn_of_carrying at_i stage move
  | reporting fault => exact turn_of_reporting at_i stage move
  | settling wake ended => exact turn_of_settling at_i stage move
  | awaiting e ended => exact turn_of_awaiting at_i stage move
  | gone => simp [followerMoves, stage] at move

end Moves

/-! ## What moves do to the backend -/

theorem perform_backend (act : Act) : (w.perform i act).backend = w.backend := by
  cases act <;> rfl

theorem afterStream_backend (result : Except CourierFault Unit) :
    (w.afterStream p i result).backend = w.backend := by
  rcases result with (_ | _) | ⟨⟩
  · rfl
  · rfl
  · rw [afterStream_ok]
    rfl

theorem afterWait_backend {ended : Instant} (result : Except WatchFault Unit) :
    (w.afterWait i ended result).backend = w.backend := by
  rcases result with (_ | _ | _) | ⟨⟩ <;> rfl

/-- The backend is only called to open a stream and to wait for a container. -/
theorem backend_of_mem (move : w' ∈ w.followerMoves p i f) :
    w'.backend = w.backend ∨
      (f.stage = .ready ∧
        w'.backend = (p.backend.openStream w.backend f.service f.options).2) ∨
      (f.isWaiting = true ∧ w'.backend = (p.backend.awaitRunning w.backend f.service).2) := by
  cases stage : f.stage with
  | gone => simp [followerMoves, stage] at move
  | ready =>
    obtain rfl : w' = _ := by simpa [followerMoves, stage] using move
    exact .inr (.inl ⟨rfl, rfl⟩)
  | carrying c =>
    simp only [followerMoves, stage, List.mem_map, Prod.exists] at move
    obtain ⟨next, act, -, rfl⟩ := move
    cases next with
    | going c' => exact .inl (perform_backend act)
    | done result => exact .inl ((afterStream_backend result).trans (perform_backend act))
  | reporting fault =>
    simp only [followerMoves, stage, List.mem_append] at move
    rcases move with move | move <;> split at move <;> simp at move <;> subst move <;>
      exact .inl rfl
  | settling wake ended =>
    simp only [followerMoves, stage] at move
    split at move
    · cases move
    · split at move
      · obtain rfl := List.mem_singleton.1 move
        exact .inl rfl
      · obtain rfl := List.mem_singleton.1 move
        exact .inr (.inr ⟨by simp [Follower.isWaiting, stage], rfl⟩)
  | awaiting e ended =>
    simp only [followerMoves, stage] at move
    split at move
    · obtain rfl := List.mem_singleton.1 move
      exact .inl rfl
    · split at move
      · cases move
      all_goals obtain rfl := List.mem_singleton.1 move
      · exact .inl rfl
      · exact .inl rfl
      · exact .inl (afterWait_backend _)

end World

end Chronicle
