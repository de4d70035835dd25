import Chronicle.Proofs.Rounds
/-!
# What scripts have to tell

A run that does not follow its streams opens one for each service and reads it to the end. What its
followers note of that is what the scripts have to tell, whatever the order in which they move:
`Reachable.tells` says for a run that the user does not cancel that what a follower has noted and
what it has still to tell are together what the opening of its service tells. The openings do not
depend on each other in an independent backend, and so not on the order of the calls.
-/

namespace Chronicle

/-! ## Scripts -/

/-- The outcomes of reading a script one after the other, up to the first that is no line. A read
that does not return is not followed by others. -/
def Script.told : Script → List Outcome
  | [] => []
  | read :: rest =>
    match read.result with
    | none => []
    | some (.line text) => .line text :: told rest
    | some o => [o]

/-- The outcomes that come after an outcome: the rest of the script is only read after a line. -/
def Script.after (rest : Script) : Outcome → List Outcome
  | .line _ => rest.told
  | _ => []

/-- What there is to tell of a stream: that it could not be opened, or the outcomes of its reads. -/
def Opening.tells (o : Opening) : List Deed :=
  match o.result with
  | none => []
  | some (.error fault) => [.notOpened fault]
  | some (.ok script) => script.told.map .got

/-- A deed that tells of a stream what the outside made of it. -/
def Deed.isTold : Deed → Bool
  | .notOpened _ | .got _ => true
  | _ => false

theorem Script.told_cons (read : Call Outcome) (rest : Script) :
    Script.told (read :: rest) = match read.result with
      | none => []
      | some o => o :: rest.after o := by
  cases result : read.result with
  | none => simp [told, result]
  | some o => cases o <;> simp [told, after, result]

theorem Script.told_next (script : Script) :
    Script.told (script.next.1 :: script.next.2) = script.told := by
  cases script <;> rfl

theorem Script.told_congr {read read' : Call Outcome} (same : read'.result = read.result)
    (rest : Script) : Script.told (read' :: rest) = Script.told (read :: rest) := by
  rw [told_cons, told_cons, same]

theorem Opening.tells_congr {o o' : Opening} (same : o'.result = o.result) :
    o'.tells = o.tells := by
  rw [tells, tells, same]

/-- What a follower has still to tell of the stream that it opens with `opening`. -/
def Follower.untold (opening : Opening) (f : Follower) : List Deed :=
  match f.stage with
  | .ready => opening.tells
  | .carrying (.opening e) => Opening.tells e.call
  | .carrying (.between rest) => rest.told.map .got
  | .carrying (.reading e rest) => (Script.told (e.call :: rest)).map .got
  | .carrying (.sending o _ rest) => (rest.after o).map .got
  | .reporting _ | .settling _ _ | .awaiting _ _ | .gone => []

/-- What the backend gives for one service does not depend on the streams of others that have been
opened before. -/
def Backend.Independent {σ : Type} (b : Backend σ) : Prop :=
  ∀ s service options other more, other ≠ service →
    (b.openStream (b.openStream s other more).2 service options).1 =
      (b.openStream s service options).1

/-- What is listed under one name is not changed by taking what is listed under another. -/
theorem Playlist.pop_other {α : Type} {name other : String} (different : other ≠ name)
    (lists : List (String × List α)) : (pop name (pop other lists).2).1 = (pop name lists).1 := by
  induction lists with
  | nil => rfl
  | cons entry rest ih =>
    obtain ⟨n, xs⟩ := entry
    by_cases own : n = other
    · simp [pop, own, different]
    · by_cases asked : n = name
      · simp [pop, asked, different.symm]
      · simp [pop, own, asked, ih]

theorem Playlist.independent : Playlist.backend.Independent := by
  intro list service options other more different
  simp [backend, pop_other different]

/-- What is opened for a service at first. -/
def Plan.opening {σ : Type} (p : Plan σ) (backend : σ) (service : String) : Opening :=
  (p.backend.openStream backend service p.firstOptions).1

namespace World

variable {σ : Type} {p : Plan σ} {w w' w₀ : World σ} {i : Nat} {f f' : Follower}
  {deeds : List Deed}

/-! ## One turn -/

theorem untold_restStage (opening : Opening) :
    ({ f with stage := restStage p w } : Follower).untold opening = [] := by
  by_cases follow : p.follow = true <;> simp [restStage, Follower.untold, follow]

/-- In a run that is not cancelled a follower that does not wait tells what it has to tell. -/
theorem Turn.tells {opening : Opening} (turn : Turn p w f deeds f')
    (opens : f.stage = .ready →
      (p.backend.openStream w.backend f.service f.options).1 = opening)
    (going : f.isWaiting = false) (calm : f.isActive = true → w.cancelled = false) :
    deeds.filter Deed.isTold ++ f'.untold opening = f.untold opening := by
  cases turn with
  | opens ready => simp [Follower.untold, ready, Deed.isTold, opens ready]
  | works at_work quiet =>
    cases quiet with
    | opening goes =>
      simpa [Follower.untold, at_work] using Opening.tells_congr (Errand.result_of_goes goes)
    | opened returns =>
      simp [Follower.untold, at_work, Opening.tells, Errand.result_of_returns returns]
    | asks => simp [Follower.untold, at_work, Script.told_next]
    | @reading _ _ rest goes =>
      simp [Follower.untold, at_work, Script.told_congr (Errand.result_of_goes goes) rest]
  | misses at_work returns =>
    simp [Follower.untold, at_work, Opening.tells, Errand.result_of_returns returns, Deed.isTold]
  | reads at_work returns =>
    simp [Follower.untold, at_work, Script.told_cons, Errand.result_of_returns returns,
      List.filter_cons, Deed.isTold]
  | sends at_work => simp [Follower.untold, at_work, Deed.isTold, Script.after]
  | ends at_work =>
    rw [untold_restStage]
    simp [Follower.untold, at_work, Deed.isTold, Script.after]
  | breaks at_work => simp [Follower.untold, at_work, Deed.isTold, Script.after]
  | reports at_work => simp [Follower.untold, at_work, Deed.isTold]
  | stops active cancelled => simp [calm active] at cancelled
  | asks settled => simp [Follower.isWaiting, settled] at going
  | lingers waits | resumes waits | loses waits => simp [Follower.isWaiting, waits] at going
  | leaves waits => simp [waits] at going

theorem restStage_ne_ready : restStage p w ≠ .ready := by
  by_cases follow : p.follow = true <;> simp [restStage, follow]

theorem Turn.not_ready (turn : Turn p w f deeds f') (going : f.isWaiting = false) :
    f'.stage ≠ .ready := by
  cases turn with
  | resumes waits => simp [Follower.isWaiting, waits] at going
  | ends => exact restStage_ne_ready
  | stops _ _ rests =>
    rcases rests with rfl | ⟨-, rfl⟩
    · simp
    · exact restStage_ne_ready
  | _ => simp

/-! ## Runs in which streams are not followed -/

theorem Rounds.first_options {notes : List Note} {options : StreamOptions}
    (h : Rounds p i notes options) (once : p.follow = false) : options = p.firstOptions := by
  cases h with
  | first => rfl
  | again _ follow => simp [once] at follow

section Start

variable {backend : σ} {printer : Printer}

/-- The follower of each service, under its number. -/
theorem Reachable.served (reach : Reachable p (World.start p backend printer) w)
    (at_i : w.followers[i]? = some f) : p.services[i]? = some f.service := by
  refine Reachable.each_follower (Q := fun _ => True) (P := fun i _ f =>
    p.services[i]? = some f.service) (fun _ _ => trivial) ?_ ?_ reach trivial at_i
  · intro i f at_i
    exact (follower_at_start at_i).1
  · intro v i f deeds f' _ _ _ served turn
    exact turn.service ▸ served

variable (once : p.follow = false) (reach : Reachable p (World.start p backend printer) w)
include once reach

theorem Reachable.never_waits (at_i : w.followers[i]? = some f) : f.isWaiting = false := by
  have place := (reach.place at_i).1
  cases stage : f.stage <;> simp_all [Place, Rests, Follower.isWaiting]

theorem Reachable.first_options (at_i : w.followers[i]? = some f) (ready : f.stage = .ready) :
    f.options = p.firstOptions := by
  have place := (reach.place at_i).1
  simp only [Place, ready] at place
  exact place.first_options once

/-- Openings stay what they were at the start until the follower of the service makes its own. -/
theorem Reachable.opening_eq (independent : p.backend.Independent) (distinct : p.services.Nodup)
    (at_i : w.followers[i]? = some f) (ready : f.stage = .ready) :
    (p.backend.openStream w.backend f.service f.options).1 = p.opening backend f.service := by
  induction reach generalizing i f with
  | start => rw [Plan.opening, ← Reachable.first_options once .start at_i ready]; rfl
  | @step v v' before step ih =>
    cases step with
    | printer _ move =>
      obtain ⟨event, -, rfl⟩ := Option.map_eq_some_iff.1 move
      exact ih at_i ready
    | userCancels | timePasses => exact ih at_i ready
    | @follower _ j g _ at_j move =>
      obtain ⟨deeds, g', turn, moved⟩ := turn_of_mem at_j move
      have going := before.never_waits once at_j
      by_cases own : i = j
      · -- The follower that has moved is not about to open its stream.
        subst own
        obtain rfl : g' = f := Option.some.inj ((moved.follower_self at_j).symm.trans at_i)
        exact absurd ready (turn.not_ready going)
      · rw [moved.follower_other own] at at_i
        have other : g.service ≠ f.service := by
          intro same
          have at_both := (before.served at_i).trans (same ▸ (before.served at_j).symm)
          have bound := (List.getElem?_eq_some_iff.1 (before.served at_i)).1
          exact own ((List.getElem?_inj bound distinct).1 at_both)
        rcases backend_of_mem move with same | ⟨-, opened⟩ | ⟨waits, -⟩
        · rw [same, ih at_i ready]
        · rw [opened, independent _ _ _ _ _ other, ih at_i ready]
        · simp [going] at waits

/-- What a follower has told of its stream, and what it has still to tell, are together what the
opening of its service tells. -/
theorem Reachable.tells (served : p.services ≠ []) (independent : p.backend.Independent)
    (distinct : p.services.Nodup) (user : w.userCancelled = false)
    (at_i : w.followers[i]? = some f) :
    (w.deedsOf i).filter Deed.isTold ++ f.untold (p.opening backend f.service) =
      (p.opening backend f.service).tells := by
  refine Reachable.each_follower (Q := fun v => v.userCancelled = false) (P := fun _ notes f =>
    (notes.map Note.deed).filter Deed.isTold ++ f.untold (p.opening backend f.service) =
      (p.opening backend f.service).tells) Step.uncancelled ?_ ?_ reach user at_i
  · intro i f at_i
    rw [(follower_at_start at_i).2]
    simp [notesOf, World.start, Follower.untold]
  · intro v i f deeds f' before user at_i told turn
    have told_now := turn.tells (before.opening_eq once independent distinct at_i)
      (before.never_waits once at_i)
      fun active => ((counted_start served backend printer).reachable before).calm user at_i active
    rw [List.map_append, notesAt_deed, List.filter_append, turn.service, List.append_assoc,
      told_now, told]

/-- A follower that is not active any more has told all. -/
theorem Reachable.told_all (served : p.services ≠ []) (independent : p.backend.Independent)
    (distinct : p.services.Nodup) (user : w.userCancelled = false)
    (at_i : w.followers[i]? = some f) (idle : f.isActive = false) :
    (w.deedsOf i).filter Deed.isTold = (p.opening backend f.service).tells := by
  have nothing : f.untold (p.opening backend f.service) = [] := by
    cases stage : f.stage <;> simp_all [Follower.isActive, Follower.untold]
  simpa [nothing] using reach.tells once served independent distinct user at_i

end Start

end World

end Chronicle
