import Chronicle.Proofs.Requests
import Chronicle.Proofs.Rounds
/-!
# Waiting for output

A call may wait until so much is printed, and then it matters to a run what is printed. A follower
may be in such a call (`Follower.awaitsOutput`), or there may be none in all of a plan
(`Plan.IsHeedless`), and then no follower of a run ever is (`World.Reachable.never_awaits`).
-/

namespace Chronicle

/-- It happens when so much has been printed. -/
def Delay.awaitsOutput : Delay → Bool
  | .untilPrinted _ => true
  | .pause _ | .cancel => false

/-- What happens next to the call is that so much has been printed. -/
def Errand.awaitsOutput {α : Type} (e : Errand α) : Bool := e.call.delays.head?.any (·.awaitsOutput)

/-- The courier is in a call that waits for output. -/
def Courier.awaitsOutput : Courier → Bool
  | .opening e => e.awaitsOutput
  | .reading e _ => e.awaitsOutput
  | .between _ | .sending _ _ _ => false

/-- The follower is in a call that waits for output. -/
def Follower.awaitsOutput (f : Follower) : Bool :=
  match f.stage with
  | .carrying c => c.awaitsOutput
  | .awaiting e _ => e.awaitsOutput
  | _ => false

/-! ## Calls that do not wait for output -/

/-- Nothing has to be printed before the call returns. -/
def Call.IsHeedless {α : Type} (c : Call α) : Prop := ∀ d ∈ c.delays, d.awaitsOutput = false

/-- No read of the script waits for output. -/
def Script.IsHeedless (s : Script) : Prop := ∀ read ∈ s, Call.IsHeedless read

/-- The stream opens without waiting for output, and so is it read. -/
structure Opening.IsHeedless (o : Opening) : Prop where
  call : Call.IsHeedless o
  reads : ∀ script, o.result = some (.ok script) → script.IsHeedless

/-- In states that are calm, and stay so, no call of the backend waits for output. -/
structure Backend.IsHeedless {σ : Type} (b : Backend σ) (calm : σ → Prop) : Prop where
  opens : ∀ s service options, calm s → Opening.IsHeedless (b.openStream s service options).1
  opened : ∀ s service options, calm s → calm (b.openStream s service options).2
  awaits : ∀ s service, calm s → Call.IsHeedless (b.awaitRunning s service).1
  awaited : ∀ s service, calm s → calm (b.awaitRunning s service).2

/-- No call that the plan ever makes waits for output. -/
def Plan.IsHeedless {σ : Type} (p : Plan σ) (backend : σ) : Prop :=
  ∃ calm : σ → Prop, p.backend.IsHeedless calm ∧ calm backend

theorem Opening.heedless_of_script {delays : List Delay} {script : Script}
    (call : ∀ d ∈ delays, d.awaitsOutput = false) (reads : script.IsHeedless) :
    Opening.IsHeedless { delays, result := some (.ok script) } where
  call := call
  reads := by
    intro opened same
    obtain rfl : script = opened := by simpa using same
    exact reads

theorem Errand.heedless_of_goes {α : Type} {e e' : Errand α} {s : Surroundings}
    (heedless : e.call.IsHeedless)
    (goes : e.step? s = some (.waits e') ∨ e.step? s = some (.cancels e')) :
    e'.call.IsHeedless := by
  obtain ⟨d, same⟩ := Errand.call_of_goes goes
  rw [same] at heedless
  intro d' mem
  exact heedless d' (List.mem_cons_of_mem d mem)

theorem Errand.awaitsOutput_eq_false {α : Type} {e : Errand α} (heedless : e.call.IsHeedless) :
    e.awaitsOutput = false := by
  unfold awaitsOutput
  cases delays : e.call.delays with
  | nil => rfl
  | cons d rest => exact heedless d (delays ▸ List.mem_cons_self)

/-! ## Followers that do not -/

namespace Follower

/-- No call that the follower is in, and no read of its stream, waits for output. -/
def IsHeedless (f : Follower) : Prop :=
  match f.stage with
  | .carrying (.opening e) => Opening.IsHeedless e.call
  | .carrying (.between rest) => rest.IsHeedless
  | .carrying (.reading e rest) => e.call.IsHeedless ∧ rest.IsHeedless
  | .carrying (.sending _ _ rest) => rest.IsHeedless
  | .awaiting e _ => e.call.IsHeedless
  | .ready | .reporting _ | .settling _ _ | .gone => True

theorem IsHeedless.awaitsOutput {f : Follower} (heedless : f.IsHeedless) :
    f.awaitsOutput = false := by
  unfold IsHeedless at heedless
  unfold Follower.awaitsOutput
  cases stage : f.stage with
  | carrying c =>
    rw [stage] at heedless
    cases c with
    | opening e => exact Errand.awaitsOutput_eq_false heedless.call
    | reading e rest => exact Errand.awaitsOutput_eq_false heedless.1
    | between | sending => rfl
  | awaiting e ended =>
    rw [stage] at heedless
    exact Errand.awaitsOutput_eq_false heedless
  | ready | reporting | settling | gone => rfl

end Follower

namespace World

variable {σ : Type} {p : Plan σ} {w : World σ} {f f' : Follower} {deeds : List Deed}
  {backend : σ} {printer : Printer}

theorem heedless_restStage : ({ f with stage := restStage p w } : Follower).IsHeedless := by
  by_cases follow : p.follow = true <;> simp [restStage, Follower.IsHeedless, follow]

theorem heedless_quiet {s : Surroundings} {c c' : Courier} (quiet : Courier.Quiet s c c')
    (heedless : ({ f with stage := .carrying c } : Follower).IsHeedless) :
    ({ f with stage := .carrying c' } : Follower).IsHeedless := by
  cases quiet with
  | opening goes =>
    refine ⟨Errand.heedless_of_goes heedless.call goes, ?_⟩
    intro script opened
    exact heedless.reads script (Errand.result_of_goes goes ▸ opened)
  | opened returns => exact heedless.reads _ (Errand.result_of_returns returns)
  | @asks script =>
    cases script with
    | nil => exact ⟨List.forall_mem_nil _, List.forall_mem_nil _⟩
    | cons read rest => exact List.forall_mem_cons.1 heedless
  | reading goes => exact ⟨Errand.heedless_of_goes heedless.1 goes, heedless.2⟩

theorem Turn.heedless {calm : σ → Prop} (turn : Turn p w f deeds f')
    (calls : p.backend.IsHeedless calm) (known : calm w.backend) (heedless : f.IsHeedless) :
    f'.IsHeedless := by
  cases turn with
  | opens => exact calls.opens _ _ _ known
  | works at_work quiet =>
    refine heedless_quiet quiet ?_
    simpa only [Follower.IsHeedless, at_work] using heedless
  | reads at_work =>
    simp only [Follower.IsHeedless, at_work] at heedless
    exact heedless.2
  | sends at_work => simpa only [Follower.IsHeedless, at_work] using heedless
  | ends => exact heedless_restStage
  | stops _ _ rests =>
    rcases rests with rfl | ⟨-, rfl⟩
    · trivial
    · exact heedless_restStage
  | asks => exact calls.awaits _ _ known
  | lingers waits _ goes =>
    simp only [Follower.IsHeedless, waits] at heedless
    exact Errand.heedless_of_goes heedless goes
  | misses | breaks | reports | leaves | resumes | loses => trivial

/-- In a run of a plan whose calls do not wait for output no follower does. -/
theorem Reachable.never_awaits (heedless : p.IsHeedless backend)
    (reach : Reachable p (World.start p backend printer) w) :
    ∀ f ∈ w.followers, f.awaitsOutput = false := by
  obtain ⟨calm, calls, known⟩ := heedless
  have calms {v : World σ} (before : Reachable p (World.start p backend printer) v) :
      calm v.backend := by
    have lasting : Lasting fun s s' : σ => calm s → calm s' :=
      ⟨fun _ => id, fun first second => second ∘ first⟩
    exact before.backend_goes lasting calls.opened calls.awaited known
  intro f mem
  obtain ⟨i, at_i⟩ := List.mem_iff_getElem?.1 mem
  apply Follower.IsHeedless.awaitsOutput
  refine reach.every_follower (P := fun _ _ f => f.IsHeedless) ?_ ?_ at_i
  · intro i service
    trivial
  · intro v i f deeds f' before held turn
    exact turn.heedless calls (calms before) held

end World

/-! ## Playlists -/

namespace Playlist

/-- Nothing on the list waits for output. -/
structure IsHeedless (p : Playlist) : Prop where
  streams : ∀ entry ∈ p.streams, ∀ o ∈ entry.2, Opening.IsHeedless o
  restarts : ∀ entry ∈ p.restarts, ∀ c ∈ entry.2, Call.IsHeedless c

/-- What holds of everything listed holds of what is taken, and of what is left. -/
theorem pop_all {α : Type} {P : α → Prop} (name : String) {lists : List (String × List α)}
    (all : ∀ entry ∈ lists, ∀ x ∈ entry.2, P x) :
    (∀ x ∈ (pop name lists).1, P x) ∧ ∀ entry ∈ (pop name lists).2, ∀ x ∈ entry.2, P x := by
  induction lists with
  | nil => exact ⟨by simp [pop], by simp [pop]⟩
  | cons entry rest ih =>
    obtain ⟨n, xs⟩ := entry
    obtain ⟨own, others⟩ := List.forall_mem_cons.1 all
    obtain ⟨first, left⟩ := ih others
    by_cases same : n = name
    · simp only [pop, if_pos same]
      refine ⟨?_, List.forall_mem_cons.2 ⟨?_, others⟩⟩
      · intro x mem
        exact own x (List.mem_of_head? mem)
      · intro x mem
        exact own x (List.mem_of_mem_tail mem)
    · simp only [pop, if_neg same]
      exact ⟨first, List.forall_mem_cons.2 ⟨own, left⟩⟩

theorem backend_heedless : backend.IsHeedless Playlist.IsHeedless where
  opens := by
    intro s service options heedless
    have listed := (pop_all service heedless.streams).1
    simp only [backend]
    cases found : (pop service s.streams).1 with
    | some o => exact listed o found
    | none => exact ⟨List.forall_mem_nil _, by simp⟩
  opened := by
    intro s service options heedless
    exact ⟨(pop_all service heedless.streams).2, heedless.restarts⟩
  awaits := by
    intro s service heedless
    have listed := (pop_all service heedless.restarts).1
    simp only [backend]
    cases found : (pop service s.restarts).1 with
    | some c => exact listed c found
    | none => exact List.forall_mem_nil _
  awaited := by
    intro s service heedless
    exact ⟨heedless.streams, (pop_all service heedless.restarts).2⟩

end Playlist

end Chronicle
