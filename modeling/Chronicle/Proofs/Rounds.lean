import Chronicle.Proofs.Reattachment
import Chronicle.Proofs.Times
import Mathlib.Data.List.Induction
/-!
# Rounds

A follower goes round: it opens a stream, carries it without a failure, stops being active, waits,
and when its container runs again it starts the next round, in which it asks for what was written
since the last one ended. `Rounds` are the notes of whole rounds. Every call that a follower makes
comes after whole rounds, or is the wait that completes the next: `Reachable.calls_in_order`.
-/

namespace Chronicle

/-- What the first stream of each service is opened with. -/
def Plan.firstOptions {σ : Type} (p : Plan σ) : StreamOptions :=
  { follow := p.follow, previous := p.previous, since := none }

/-- What the stream of a service that runs again is opened with. -/
def StreamOptions.after (ended : Instant) : StreamOptions :=
  { follow := true, previous := false, since := some ended }

/-- The read failed. -/
def Outcome.isFailure : Outcome → Bool
  | failed _ => true
  | _ => false

namespace Deed

/-- A stream is opened, or a container waited for. -/
def isCall : Deed → Bool
  | opened _ | awaited => true
  | _ => false

/-- A stream is carried: something other than a failure is read of it, or queued. -/
def carries : Deed → Bool
  | got o => !o.isFailure
  | queued r => !r.isFailure
  | _ => false

theorem not_call_of_carries {d : Deed} (h : d.carries = true) : d.isCall = false := by
  cases d <;> simp_all [carries, isCall]

end Deed

/-- The calls of a follower that has come back so often, each time to ask for what was written since
then. -/
def Plan.calls {σ : Type} (p : Plan σ) (sinces : List Instant) : List Deed :=
  .opened p.firstOptions :: sinces.flatMap fun ended => [.awaited, .opened (.after ended)]

theorem Plan.calls_append {σ : Type} (p : Plan σ) (sinces : List Instant) (ended : Instant) :
    p.calls (sinces ++ [ended]) = p.calls sinces ++ [.awaited, .opened (.after ended)] := by
  simp [calls]

/-- The calls among some notes. -/
def Note.calls (notes : List Note) : List Deed := (notes.map Note.deed).filter Deed.isCall

/-- A call that goes on has one delay less. -/
theorem Errand.call_of_goes {α : Type} {e e' : Errand α} {s : Surroundings}
    (h : e.step? s = some (.waits e') ∨ e.step? s = some (.cancels e')) :
    ∃ d, e.call = { e'.call with delays := d :: e'.call.delays } := by
  obtain ⟨wake, ⟨delays, result⟩⟩ := e
  unfold Errand.step? at h
  split at h
  · simp at h
  · split at h
    · simp at h
    · next same =>
      obtain rfl : _ = e' := by simpa using h
      exact ⟨_, congrArg (Call.mk · result) same⟩
    · next same =>
      obtain rfl : _ = e' := by simpa using h
      exact ⟨_, congrArg (Call.mk · result) same⟩
    · next same =>
      split at h
      · obtain rfl : _ = e' := by simpa using h
        exact ⟨_, congrArg (Call.mk · result) same⟩
      · simp at h

theorem Errand.result_of_goes {α : Type} {e e' : Errand α} {s : Surroundings}
    (h : e.step? s = some (.waits e') ∨ e.step? s = some (.cancels e')) :
    e'.call.result = e.call.result := by
  obtain ⟨d, same⟩ := Errand.call_of_goes h
  rw [same]

/-- The follower makes no further call: its stream will not open or the next read of it fails, or
has failed; its wait fails, or its run is cancelled while it waits or is about to; or it is gone. -/
def Follower.isSpent (f : Follower) (cancelled : Bool) : Bool :=
  match f.stage with
  | .ready | .carrying (.between _) => false
  | .carrying (.opening e) => e.call.result.any (!·.isOk)
  | .carrying (.reading e _) => e.call.result.any (·.isFailure)
  | .carrying (.sending o _ _) => o.isFailure
  | .settling _ _ => cancelled
  | .awaiting e _ => cancelled || e.call.result.any (!·.isOk)
  | .reporting _ | .gone => true

theorem Follower.isSpent_mono {f : Follower} {was is : Bool} (stays : was = true → is = true)
    (h : f.isSpent was = true) : f.isSpent is = true := by
  cases was with
  | true => rwa [stays rfl]
  | false =>
    unfold isSpent at h ⊢
    split <;> simp_all

namespace World

variable {σ : Type} {p : Plan σ} {w w' v : World σ} {i : Nat} {f f' : Follower}
  {deeds : List Deed} {notes : List Note} {options : StreamOptions} {ended : Instant}

/-! ## Whole rounds -/

/-- The notes of whole rounds, and what the stream of the next is to be opened with. In each round a
stream is opened and carried without a failure, and the wait after it succeeds. -/
inductive Rounds (p : Plan σ) (i : Nat) : List Note → StreamOptions → Prop where
  | first : Rounds p i [] p.firstOptions
  | again {past stream : List Note} {options : StreamOptions} {opened ended asked back : Nat}
      (before : Rounds p i past options) (follow : p.follow = true)
      (carried : ∀ n ∈ stream, n.deed.carries = true) :
      Rounds p i
        (past ++ ⟨i, opened, .opened options⟩ :: stream ++
          [⟨i, ended, .released⟩, ⟨i, asked, .awaited⟩, ⟨i, back, .acquired⟩])
        (.after (p.start.later ended))

/-- After whole rounds a stream was opened, and it has been carried without a failure so far. -/
def Carries (p : Plan σ) (i : Nat) (notes : List Note) (options : StreamOptions) : Prop :=
  ∃ past opened stream, notes = past ++ ⟨i, opened, .opened options⟩ :: stream ∧
    Rounds p i past options ∧ ∀ n ∈ stream, n.deed.carries = true

/-- After that the follower stopped being active, to wait. -/
def Rests (p : Plan σ) (i : Nat) (notes : List Note) (options : StreamOptions) (ended : Instant) :
    Prop :=
  p.follow = true ∧ ∃ before time, notes = before ++ [⟨i, time, .released⟩] ∧
    ended = p.start.later time ∧ Carries p i before options

/-- The calls that may come next: a stream is opened after whole rounds, and a container waited for
when the follower rests. -/
inductive Next (p : Plan σ) (i : Nat) (before : List Note) : Deed → Prop where
  | opened {options : StreamOptions} (rounds : Rounds p i before options) :
      Next p i before (.opened options)
  | awaited {options : StreamOptions} {ended : Instant} (rests : Rests p i before options ended) :
      Next p i before .awaited

/-- Each call comes when it may. -/
def InOrder (p : Plan σ) (i : Nat) (notes : List Note) : Prop :=
  ∀ before n after, notes = before ++ n :: after → n.deed.isCall = true → Next p i before n.deed

theorem Rounds.follow (h : Rounds p i notes options) : options.follow = p.follow := by
  cases h with
  | first => rfl
  | again _ follow => exact follow.symm

theorem Carries.append {more : List Note} (h : Carries p i notes options)
    (carried : ∀ n ∈ more, n.deed.carries = true) : Carries p i (notes ++ more) options := by
  obtain ⟨past, opened, stream, rfl, rounds, before⟩ := h
  exact ⟨past, opened, stream ++ more, by simp, rounds, List.forall_mem_append.2 ⟨before, carried⟩⟩

theorem Rests.again {asked back : Nat} (h : Rests p i notes options ended) :
    Rounds p i (notes ++ [⟨i, asked, .awaited⟩] ++ [⟨i, back, .acquired⟩]) (.after ended) := by
  obtain ⟨follow, before, time, rfl, rfl, past, opened, stream, rfl, rounds, carried⟩ := h
  have whole : Rounds p i (past ++ ⟨i, opened, .opened options⟩ :: stream ++
      [⟨i, time, .released⟩, ⟨i, asked, .awaited⟩, ⟨i, back, .acquired⟩]) _ :=
    rounds.again follow carried
  simpa using whole

theorem Rests.options_eq (h : Rests p i notes options ended) :
    { options with previous := false, since := some ended } = StreamOptions.after ended := by
  obtain ⟨follow, before, time, -, -, past, opened, stream, -, rounds, -⟩ := h
  simp [StreamOptions.after, rounds.follow, follow]

/-- Whole rounds end when their last wait does, and the next asks for what was written since the last
stream ended. -/
theorem Rounds.since {s : Instant} (h : Rounds p i notes options) (since : options.since = some s) :
    ∃ before ended asked back, s = p.start.later ended ∧
      notes = before ++ [⟨i, ended, .released⟩, ⟨i, asked, .awaited⟩, ⟨i, back, .acquired⟩] := by
  cases h with
  | first => cases since
  | again => exact ⟨_, _, _, _, (Option.some.inj since).symm, rfl⟩

/-! ## Where a follower is in its rounds -/

/-- What the notes of a follower are at each stage. Of one that has failed or is gone nothing needs
to be known, because it makes no further call. -/
def Place (p : Plan σ) (i : Nat) (notes : List Note) (f : Follower) : Prop :=
  match f.stage with
  | .ready => Rounds p i notes f.options
  | .carrying (.sending (.failed _) _ _) | .reporting _ | .gone => True
  | .carrying _ => Carries p i notes f.options
  | .settling _ ended => Rests p i notes f.options ended
  | .awaiting _ ended =>
    ∃ before asked, notes = before ++ [⟨i, asked, .awaited⟩] ∧ Rests p i before f.options ended

theorem Carries.restStage (h : Carries p i notes f.options) :
    Place p i (notes ++ [⟨i, w.now, .released⟩]) { f with stage := restStage p w } := by
  by_cases follow : p.follow = true
  · simp only [Place, World.restStage, follow, if_true]
    exact ⟨follow, _, _, rfl, rfl, h⟩
  · simp [Place, World.restStage, follow]

theorem Place.carries_of_sound (h : Place p i notes f) (sound : f.isSound = true) :
    Carries p i notes f.options := by
  unfold Follower.isSound at sound
  split at sound <;> simp_all [Place]

theorem Place.turn (h : Place p i notes f) (turn : Turn p w f deeds f') :
    Place p i (notes ++ w.notesAt i deeds) f' := by
  -- A turn that leads to another place notes just what that place asks for.
  cases turn with
  | opens ready =>
    simp only [Place, ready] at h ⊢
    exact ⟨notes, w.now, [], rfl, h, by simp⟩
  | works at_work quiet =>
    have carries : Carries p i notes f.options := by
      cases quiet <;> simpa [Place, at_work] using h
    cases quiet <;> simpa [Place, notesAt] using carries
  | reads at_work =>
    simp only [Place, at_work] at h
    next o _ =>
    cases o with
    | failed fault => trivial
    | line _ | ended _ => exact h.append (by simp [notesAt, Deed.carries, Outcome.isFailure])
  | sends at_work =>
    simp only [Place, at_work] at h
    exact h.append (by simp [notesAt, Deed.carries, RawRecord.isFailure])
  | @ends trailing receivedAt _ at_work =>
    simp only [Place, at_work] at h
    have queued : ∀ n ∈ w.notesAt i [.queued (.terminal f.service trailing receivedAt)],
        n.deed.carries = true := by simp [notesAt, Deed.carries, RawRecord.isFailure]
    simpa [notesAt] using (h.append queued).restStage
  | stops _ _ rests =>
    rcases rests with rfl | ⟨sound, rfl⟩
    · trivial
    · exact (h.carries_of_sound sound).restStage
  | asks settled =>
    simp only [Place, settled] at h ⊢
    exact ⟨notes, w.now, rfl, h⟩
  | lingers waits =>
    simpa [Place, waits, notesAt] using h
  | resumes waits =>
    simp only [Place, waits] at h ⊢
    obtain ⟨before, asked, rfl, rests⟩ := h
    rw [rests.options_eq]
    exact rests.again
  | misses | breaks | reports | leaves | loses => trivial

/-- The call among the deeds of a turn, if there is one, may come next. -/
theorem Place.next (h : Place p i notes f) (turn : Turn p w f deeds f') :
    ∀ d ∈ deeds, d.isCall = true → deeds = [d] ∧ Next p i notes d := by
  cases turn with
  | opens ready =>
    simp only [Place, ready] at h
    simpa using fun _ => Next.opened h
  | asks settled =>
    simp only [Place, settled] at h
    simpa using fun _ => Next.awaited h
  | works | lingers | leaves => simp
  | misses | reads | sends | ends | breaks | reports | stops | resumes => simp [Deed.isCall]
  | loses => split <;> simp [Deed.isCall]

/-- What holds at each place of a list still does when something is appended, if it holds at the
new places. -/
theorem forall_splits_append {α : Type} {C : List α → α → Prop} {old new : List α}
    (holds : ∀ before a after, old = before ++ a :: after → C before a)
    (more : ∀ before a after, new = before ++ a :: after → C (old ++ before) a) :
    ∀ before a after, old ++ new = before ++ a :: after → C before a := by
  intro before a after split
  rcases List.append_eq_append_iff.1 split with ⟨rest, rfl, fresh⟩ | ⟨rest, rfl, past⟩
  · exact more rest a after fresh
  · rcases List.cons_eq_append_iff.1 past with ⟨rfl, fresh⟩ | ⟨last, rfl, -⟩
    · simpa using more [] a after fresh
    · exact holds before a last rfl

theorem InOrder.nil : InOrder p i [] := by
  intro before n after split
  simp at split

theorem InOrder.turn (h : InOrder p i notes) (place : Place p i notes f)
    (turn : Turn p w f deeds f') : InOrder p i (notes ++ w.notesAt i deeds) := by
  refine forall_splits_append h ?_
  intro before n after new call
  have mem : n ∈ w.notesAt i deeds := by simp [new]
  obtain ⟨d, did, rfl⟩ := List.mem_map.1 mem
  obtain ⟨only, next⟩ := place.next turn d did call
  -- The call is the only one of the new deeds.
  have one : (before ++ ⟨i, w.now, d⟩ :: after).length = 1 := by rw [← new, only]; rfl
  obtain rfl : before = [] := by
    rw [← List.length_eq_zero_iff]
    simp at one
    omega
  rwa [List.append_nil]

theorem Reachable.place {backend : σ} {printer : Printer}
    (reach : Reachable p (World.start p backend printer) w) (at_i : w.followers[i]? = some f) :
    Place p i (w.notesOf i) f ∧ InOrder p i (w.notesOf i) := by
  refine reach.every_follower (P := fun i notes f => Place p i notes f ∧ InOrder p i notes)
    ?_ ?_ at_i
  · intro i service
    exact ⟨Rounds.first, InOrder.nil⟩
  · intro v i f deeds f' _ ⟨place, order⟩ turn
    exact ⟨place.turn turn, order.turn place turn⟩

/-! ## The calls alone -/

/-- The calls of a follower, the first first. -/
def callsOf (w : World σ) (i : Nat) : List Deed := Note.calls (w.notesOf i)

@[simp]
theorem calls_nil : Note.calls [] = [] := rfl

@[simp]
theorem calls_cons (n : Note) (rest : List Note) :
    Note.calls (n :: rest) = (if n.deed.isCall then [n.deed] else []) ++ Note.calls rest := by
  cases call : n.deed.isCall <;> simp [Note.calls, call]

theorem calls_append (notes more : List Note) :
    Note.calls (notes ++ more) = Note.calls notes ++ Note.calls more := by
  simp [Note.calls]

theorem calls_eq_nil (quiet : ∀ n ∈ notes, n.deed.isCall = false) : Note.calls notes = [] := by
  simpa [Note.calls] using quiet

/-- A stream that is carried adds the call that opened it. -/
theorem calls_of_carried {past stream : List Note} {opened : Nat}
    (carried : ∀ n ∈ stream, n.deed.carries = true) :
    Note.calls (past ++ ⟨i, opened, .opened options⟩ :: stream) =
      Note.calls past ++ [.opened options] := by
  have quiet : Note.calls stream = [] :=
    calls_eq_nil fun n mem => Deed.not_call_of_carries (carried n mem)
  simp [calls_append, quiet, Deed.isCall]

theorem Rounds.calls (h : Rounds p i notes options) :
    ∃ sinces, Note.calls notes ++ [.opened options] = p.calls sinces ∧
      (p.follow = false → sinces = []) := by
  induction h with
  | first => exact ⟨[], rfl, fun _ => rfl⟩
  | @again past stream options opened ended asked back before follow carried ih =>
    obtain ⟨sinces, same, -⟩ := ih
    refine ⟨sinces ++ [p.start.later ended], ?_, by simp [follow]⟩
    rw [calls_append, calls_of_carried carried, same, Plan.calls_append]
    simp [Deed.isCall]

theorem Next.calls {d : Deed} (h : Next p i notes d) :
    ∃ sinces, Note.calls notes ++ [d] <+: p.calls sinces ∧ (p.follow = false → sinces = []) := by
  cases h with
  | opened rounds =>
    obtain ⟨sinces, same, alone⟩ := rounds.calls
    exact ⟨sinces, same ▸ List.prefix_refl _, alone⟩
  | @awaited _ ended rests =>
    obtain ⟨follow, before, time, rfl, rfl, past, opened, stream, rfl, rounds, carried⟩ := rests
    obtain ⟨sinces, same, -⟩ := rounds.calls
    refine ⟨sinces ++ [p.start.later time], ?_, by simp [follow]⟩
    rw [calls_append, calls_of_carried carried, same, Plan.calls_append]
    simp [Deed.isCall]

/-- Calls that are in order are those of some rounds, up to some point. -/
theorem InOrder.calls (h : InOrder p i notes) :
    ∃ sinces, Note.calls notes <+: p.calls sinces ∧ (p.follow = false → sinces = []) := by
  induction notes using List.reverseRecOn with
  | nil => exact ⟨[], List.nil_prefix, fun _ => rfl⟩
  | append_singleton notes n ih =>
    -- Only a call changes the calls, and then what was done before says where it stands.
    cases call : n.deed.isCall with
    | false =>
      have before : InOrder p i notes := fun past m rest split =>
        h past m (rest ++ [n]) (by simp [split])
      simpa [calls_append, call] using ih before
    | true => simpa [calls_append, call] using (h notes n [] rfl call).calls

/-! ## The last call -/

theorem Turn.spent (turn : Turn p w f deeds f') (spent : f.isSpent w.cancelled = true) :
    (∀ d ∈ deeds, d.isCall = false) ∧ f'.isSpent w.cancelled = true := by
  -- A call that goes on keeps its result, and a result that is a failure leads to a stage without
  -- calls. The other turns are not those of a spent follower.
  cases turn with
  | opens ready => simp [Follower.isSpent, ready] at spent
  | works at_work quiet =>
    cases quiet with
    | opening goes | reading goes =>
      simpa [Follower.isSpent, at_work, Errand.result_of_goes goes] using spent
    | opened returns =>
      simp [Follower.isSpent, at_work, Errand.result_of_returns returns, Except.isOk,
        Except.toBool] at spent
    | asks => simp [Follower.isSpent, at_work] at spent
  | misses | breaks | reports => exact ⟨by simp [Deed.isCall], rfl⟩
  | leaves => exact ⟨by simp, rfl⟩
  | loses => exact ⟨by split <;> simp [Deed.isCall], rfl⟩
  | reads at_work returns =>
    simp only [Follower.isSpent, at_work, Errand.result_of_returns returns] at spent
    exact ⟨by simp [Deed.isCall], by simpa [Follower.isSpent] using spent⟩
  | sends at_work | ends at_work =>
    simp [Follower.isSpent, at_work, Outcome.isFailure] at spent
  | stops _ _ rests =>
    rcases rests with rfl | ⟨sound, rfl⟩
    · exact ⟨by simp [Deed.isCall], rfl⟩
    · unfold Follower.isSound at sound
      split at sound <;> simp_all [Follower.isSpent, Outcome.isFailure]
  | asks settled _ calm => simp [Follower.isSpent, settled, calm] at spent
  | lingers waits _ goes =>
    simpa [Follower.isSpent, waits, Errand.result_of_goes goes] using spent
  | resumes waits calm returns =>
    simp [Follower.isSpent, waits, calm, Errand.result_of_returns returns, Except.isOk,
      Except.toBool] at spent

theorem Reachable.calls_of_spent (reach : Reachable p v w) (at_i : v.followers[i]? = some f)
    (spent : f.isSpent v.cancelled = true) : w.callsOf i = v.callsOf i := by
  suffices w.callsOf i = v.callsOf i ∧
      ∃ f, w.followers[i]? = some f ∧ f.isSpent w.cancelled = true from this.1
  induction reach with
  | start => exact ⟨rfl, f, at_i, spent⟩
  | @step w w' _ step ih =>
    obtain ⟨same, f, at_i, spent⟩ := ih
    rcases step.at_follower at_i with ⟨at_i', notes⟩ | ⟨deeds, f', at_i', turn, notes⟩
    · exact ⟨by rw [callsOf, notes, ← same, callsOf], f, at_i',
        Follower.isSpent_mono step.cancelled spent⟩
    · obtain ⟨quiet, spent⟩ := turn.spent spent
      refine ⟨?_, f', at_i', Follower.isSpent_mono step.cancelled spent⟩
      have none : Note.calls (w.notesAt i deeds) = [] :=
        calls_eq_nil (by simpa [notesAt] using quiet)
      rw [callsOf, notes, calls_append, none, List.append_nil]
      exact same

/-! ## What is asked for -/

/-- Nothing is asked for again: the stream of a later round is asked for what was written since a
time that is no earlier than any stamp of before. -/
theorem InOrder.since {before after : List Note} {n : Note} {s : Instant} (h : InOrder p i notes)
    (ordered : notes.Pairwise fun n later => n.time ≤ later.time)
    (stamped : ∀ n ∈ notes, ∀ s, n.deed.stamp? = some s → s ≤ p.start.later n.time)
    (split : notes = before ++ n :: after) (opens : n.deed = .opened options)
    (since : options.since = some s) : ∀ m ∈ before, ∀ t, m.deed.stamp? = some t → t ≤ s := by
  have next := h before n after split (by rw [opens]; rfl)
  rw [opens] at next
  cases next with
  | opened rounds =>
    obtain ⟨past, ended, asked, back, rfl, rfl⟩ := rounds.since since
    intro m mem t stamp
    subst split
    have early := stamped m (List.mem_append_left _ mem) t stamp
    rcases List.mem_append.1 mem with old | last
    · -- Whatever came before the stream ended is stamped no later than that.
      have le : m.time ≤ ended := by
        have inner := (List.pairwise_append.1 (List.pairwise_append.1 ordered).1).2.2
        exact inner m old _ List.mem_cons_self
      exact Instant.le_trans early (p.start.later_le_later le)
    · -- And after that nothing is stamped.
      simp only [List.mem_cons, List.not_mem_nil, or_false] at last
      rcases last with rfl | rfl | rfl <;> cases stamp

/-- In every run the calls of a follower go round, up to some point. The first opens a stream as
the run is set; after that a wait comes after whole rounds and a stream carried without a failure,
and only when streams are followed, and a stream is opened after whole rounds, that is after a wait
that succeeded. There is no call after one that failed, or once the run is cancelled while the
follower is about to wait or waits. What is asked for when a stream is opened again was written
since a time no earlier than what was asked for before, and no earlier than any record queued before
was received. -/
theorem Reachable.calls_in_order {backend : σ} {printer : Printer}
    (reach : Reachable p (World.start p backend printer) w) (at_i : w.followers[i]? = some f) :
    InOrder p i (w.notesOf i) ∧
    (∃ sinces, w.callsOf i <+: p.calls sinces) ∧
    (p.follow = false → w.callsOf i <+: [.opened p.firstOptions]) ∧
    (f.isSpent w.cancelled = true → ∀ w', Reachable p w w' → w'.callsOf i = w.callsOf i) ∧
    ∀ before n after options since, w.notesOf i = before ++ n :: after →
      n.deed = .opened options → options.since = some since →
      ∀ m ∈ before,
        (∀ earlier t, m.deed = .opened earlier → earlier.since = some t → t ≤ since) ∧
        ∀ r t, m.deed = .queued r → r.receivedAt? = some t → t ≤ since := by
  have order := (reach.place at_i).2
  obtain ⟨sinces, calls, alone⟩ := order.calls
  refine ⟨order, ⟨sinces, calls⟩, ?_, fun spent _ later => later.calls_of_spent at_i spent, ?_⟩
  · intro follow
    rwa [alone follow] at calls
  intro before n after options since split opens asked m mem
  have least := order.since (reach.notes_ordered rfl) (reach.stamped at_i).noted split opens asked
    m mem
  exact ⟨fun _ t deed stamp => least t (by rw [deed]; exact stamp),
    fun _ t deed stamp => least t (by rw [deed]; exact stamp)⟩

theorem pair_calls_in_order :
    pairEnd.callsOf 0 =
      [.opened { follow := true }, .awaited, .opened (.after ⟨1700000000, 0⟩), .awaited] ∧
    InOrder pair 0 (pairEnd.notesOf 0) ∧ (∃ sinces, pairEnd.callsOf 0 <+: pair.calls sinces) := by
  obtain ⟨f, at_0⟩ : ∃ f, pairEnd.followers[0]? = some f :=
    Option.isSome_iff_exists.1 (by decide +kernel)
  obtain ⟨order, calls, -⟩ := pairEnd_reachable.calls_in_order at_0
  exact ⟨by decide +kernel, order, calls⟩

end World

end Chronicle
