import Chronicle.Proofs.Gate
/-!
# Slots of the queue

How many slots the queue of a run is to have is counted in 64 bits, and a queue is made only if it
has at least one slot and no more than `maxSlots`. Nothing in the settings sees to that: whether the
queue can be made depends on how many services there are, and where it cannot the run breaks off
(`Application.makes_queue_iff`).
-/

namespace Chronicle

/-! ## Counting slots -/

section Counting

variable {services perService : Nat}

/-- A service has a slot even if none is set. -/
theorem queueCapacity_pos (served : 0 < services) : 0 < queueCapacity services perService :=
  Nat.mul_pos served (by omega)

theorem queueSlots_of_le (fits : queueCapacity services perService ≤ Decimal.maxU64) :
    queueSlots services perService = queueCapacity services perService :=
  Nat.mod_eq_of_lt (Nat.lt_succ_of_le fits)

/-- The slots are counted right and there are not too many of them, if the true number is not too
large. -/
theorem slots_fit_iff (served : 0 < services) :
    (queueCapacity services perService ≤ Decimal.maxU64 ∧ 1 ≤ queueSlots services perService ∧
        queueSlots services perService ≤ maxSlots) ↔
      queueCapacity services perService ≤ maxSlots := by
  constructor
  · rintro ⟨counted, -, few⟩
    rwa [queueSlots_of_le counted] at few
  · intro few
    have counted : queueCapacity services perService ≤ Decimal.maxU64 :=
      Nat.le_trans few (Nat.div_le_self _ _)
    rw [queueSlots_of_le counted]
    exact ⟨counted, queueCapacity_pos served, few⟩

end Counting

theorem Plan.hasQueue_iff {σ : Type} {p : Plan σ} :
    p.hasQueue = true ↔ 1 ≤ p.capacity ∧ p.capacity ≤ maxSlots := by
  simp [Plan.hasQueue]

/-! ## How a run breaks off -/

namespace Printer

variable {p : Printer} {now : Nat} {event : Event}

theorem flush_noQueue (broken : (p.flush now).verdict = some .noQueue) :
    p.verdict = some .noQueue := by
  by_cases empty : p.buffer = []
  · simpa [flush, empty] using broken
  · simp [flush, empty] at broken

/-- No event makes a printer say that there is no queue. -/
theorem handle_noQueue (broken : (p.handle now event).verdict = some .noQueue) :
    p.verdict = some .noQueue := by
  rcases handle_cases p now event with ⟨r, -, -, handled⟩ | ⟨-, handled⟩
  · rwa [handled] at broken
  · rw [handled] at broken
    rcases Option.or_eq_some_iff.1 broken with flushed | ⟨-, ended⟩
    · exact flush_noQueue (p := p.gather event) flushed
    · cases ends_of_verdict? ended

end Printer

section Runs

variable {σ : Type} {p : Plan σ} {w₀ w : World σ}

theorem World.Reachable.noQueue (reach : Reachable p w₀ w)
    (broken : w.printer.verdict = some .noQueue) : w₀.printer.verdict = some .noQueue := by
  induction reach with
  | start => exact broken
  | step before step ih =>
    refine ih ?_
    cases step with
    | userCancels | timePasses => exact broken
    | printer _ move =>
      obtain ⟨event, -, rfl⟩ := Option.map_eq_some_iff.1 move
      exact Printer.handle_noQueue broken
    | follower _ at_i move =>
      obtain ⟨deeds, f', -, moved⟩ := turn_of_mem at_i move
      rwa [moved.printer] at broken

/-- A run breaks off exactly if its queue cannot be made. -/
theorem Plan.run_noQueue_iff (served : p.services ≠ []) (backend : σ) {printer : Printer}
    (going : printer.verdict = none) (cancelAt : Option Nat) (horizon : Nat) :
    (p.run backend printer cancelAt horizon).1.verdict = some .noQueue ↔ p.hasQueue = false := by
  have some_services : p.services.isEmpty = false := by simpa using served
  unfold Plan.run
  cases queue : p.hasQueue with
  | false => simp [some_services]
  | true =>
    simp only [some_services, Bool.false_eq_true, if_false, Bool.not_true, reduceCtorEq, iff_false]
    intro broken
    have reach : World.Reachable p (World.start p backend printer)
        ((World.start p backend printer).run p cancelAt horizon) := World.reachable_runFor _ _
    have atStart : printer.verdict = some .noQueue := reach.noQueue broken
    rw [going] at atStart
    cases atStart

end Runs

namespace Application

variable {h : Host} {call : Invocation} {s : Settings} {endpoint : Endpoint}

theorem upshotOf_noQueue_iff {report : Report} {c : Connection} :
    (upshotOf report c).result = some (.error (.run .noQueue)) ↔
      report.verdict = some .noQueue := by
  unfold upshotOf
  cases report.verdict with
  | none => simp
  | some verdict => cases verdict <;> simp

/-- Who is let through the gate breaks off exactly if the queue cannot be made. -/
theorem print_breaks_off_iff {c : Connection} (served : call.services ≠ [])
    (admitted : (Client.gate call.services c).1.result = some (.ok ())) :
    (print h call s c).result = some (.error (.run .noQueue)) ↔
      ¬ (1 ≤ (plan h call s).capacity ∧ (plan h call s).capacity ≤ maxSlots) := by
  let printer : Printer :=
    { layout := layout h call s, window := s.timing.window, follow := call.follow }
  have admitted' : (ensureStarted (fun service => (Client.hasStarted service).run) call.services
      c).1.result = some (.ok ()) := admitted
  have result : (print h call s c).result = (upshotOf
      ((plan h call s).run (Client.gate call.services c).2 printer none h.horizon).1
      ((plan h call s).run (Client.gate call.services c).2 printer none h.horizon).2).result := by
    simp only [print, admitted']
    rfl
  rw [result, upshotOf_noQueue_iff, Plan.run_noQueue_iff served _ rfl, ← Plan.hasQueue_iff,
    Bool.not_eq_true]

/-- Under all settings that load, a run with services asks for at least one slot. The slots are
counted without overflow, and there are at least one and no more than a queue can have, exactly if
the services times the slots for each are no more than that. An application that comes to its run
breaks off exactly if the slots that it has counted are none or too many. -/
theorem makes_queue_iff (loaded : Settings.load h.files h.environment call.config = .ok s)
    (served : call.services ≠ []) :
    1 ≤ queueCapacity call.services.length s.timing.queuePerService ∧
    ((queueCapacity call.services.length s.timing.queuePerService ≤ Decimal.maxU64 ∧
        1 ≤ (plan h call s).capacity ∧ (plan h call s).capacity ≤ maxSlots) ↔
      call.services.length * max s.timing.queuePerService 1 ≤ maxSlots) ∧
    (Endpoint.read (resolveHost call.dockerHost (h.environment.get? "DOCKER_HOST") s.host) =
        .ok endpoint →
      (Client.gate call.services (connection h endpoint)).1.result = some (.ok ()) →
      ((run h call).result = some (.error (.run .noQueue)) ↔
        ¬ (1 ≤ (plan h call s).capacity ∧ (plan h call s).capacity ≤ maxSlots))) := by
  have some_services : 0 < call.services.length := List.length_pos_iff.2 served
  refine ⟨queueCapacity_pos some_services, slots_fit_iff some_services, ?_⟩
  intro accepted admitted
  rw [run_eq loaded accepted, print_breaks_off_iff served admitted]

/-- The host with a container that has run, where slots are set in the environment. -/
def slotted (perService : String) : Host :=
  { halfStarted with environment := [("LOGWEAVE_ENGINE__QUEUE_PER_SERVICE", perService)] }

/-- The log of the container that has run is wanted, so many times. -/
def wanted (times : Nat) : Invocation where
  dockerHost := some "tcp://localhost:2375"
  services := List.replicate times "web"

theorem slotted_loads (perService : String) (slots : Nat)
    (loads : (Settings.load (slotted perService).files (slotted perService).environment
      none).toOption.any (·.timing.queuePerService = slots) = true) :
    ∃ s, (∀ times, Settings.load (slotted perService).files (slotted perService).environment
      (wanted times).config = .ok s) ∧ s.timing.queuePerService = slots := by
  cases loaded : Settings.load (slotted perService).files (slotted perService).environment none with
  | error fault => simp [loaded, Except.toOption] at loads
  | ok s => exact ⟨s, fun _ => loaded, by simpa [loaded, Except.toOption] using loads⟩

theorem slotted_accepted {perService : String} {times : Nat} {s : Settings} :
    Endpoint.read (resolveHost (wanted times).dockerHost
      ((slotted perService).environment.get? "DOCKER_HOST") s.host) =
      .ok (.network "localhost:2375") := by
  show Endpoint.read "tcp://localhost:2375" = _
  rfl

theorem slotted_admitted (perService : String) (times : Nat)
    (passes : (Client.gate (wanted times).services
      (connection (slotted perService) (.network "localhost:2375"))).1.result.any
        Except.isOk = true) :
    (Client.gate (wanted times).services
      (connection (slotted perService) (.network "localhost:2375"))).1.result = some (.ok ()) := by
  obtain ⟨result, passed, ok⟩ := (Option.any_eq_true _ _).1 passes
  cases result with
  | error fault => cases ok
  | ok => exact passed

theorem single_slots_make_queue :
    ∃ s, Settings.load (slotted "0").files (slotted "0").environment (wanted 2).config = .ok s ∧
      (wanted 2).services ≠ [] ∧
      (1 ≤ (plan (slotted "0") (wanted 2) s).capacity ∧
        (plan (slotted "0") (wanted 2) s).capacity ≤ maxSlots) ∧
      (run (slotted "0") (wanted 2)).result ≠ some (.error (.run .noQueue)) := by
  obtain ⟨s, loaded, set⟩ := slotted_loads "0" 0 (by decide +kernel)
  obtain ⟨-, fits, breaks⟩ := makes_queue_iff (loaded 2) (by decide)
  have counted := (fits.2 (by simp [wanted, set, maxSlots, Decimal.maxU64])).2
  refine ⟨s, loaded 2, by decide, counted, ?_⟩
  rw [Ne, breaks slotted_accepted (slotted_admitted "0" 2 (by decide +kernel)), not_not]
  exact counted

theorem slotted_capacity {perService : String} {s : Settings} (times : Nat) :
    (plan (slotted perService) (wanted times) s).capacity =
      queueSlots times s.timing.queuePerService := by
  simp [plan, wanted]

theorem slotted_breaks_off {perService : String} {times : Nat} {s : Settings}
    (loaded : Settings.load (slotted perService).files (slotted perService).environment
      (wanted times).config = .ok s)
    (served : (wanted times).services ≠ [])
    (admitted : (Client.gate (wanted times).services
      (connection (slotted perService) (.network "localhost:2375"))).1.result = some (.ok ()))
    (unfit : ¬ (1 ≤ (plan (slotted perService) (wanted times) s).capacity ∧
      (plan (slotted perService) (wanted times) s).capacity ≤ maxSlots)) :
    (run (slotted perService) (wanted times)).result = some (.error (.run .noQueue)) := by
  rw [run_eq loaded slotted_accepted]
  exact (print_breaks_off_iff served admitted).2 unfit

/-- One slot more for each service than a queue can have. -/
def wide : String := "2305843009213693952"

/-- With slots that can be set there are too many for one service already, and for eight the count
comes round to none. Either way the run breaks off. -/
theorem wide_queue_breaks_off :
    ∃ s, Settings.load (slotted wide).files (slotted wide).environment none = .ok s ∧
      s.timing.queuePerService = 2305843009213693952 ∧
      ((wanted 1).services ≠ [] ∧
        maxSlots < (plan (slotted wide) (wanted 1) s).capacity ∧
        (run (slotted wide) (wanted 1)).result = some (.error (.run .noQueue))) ∧
      ((wanted 8).services ≠ [] ∧
        Decimal.maxU64 < queueCapacity (wanted 8).services.length s.timing.queuePerService ∧
        (plan (slotted wide) (wanted 8) s).capacity = 0 ∧
        (run (slotted wide) (wanted 8)).result = some (.error (.run .noQueue))) := by
  obtain ⟨s, loaded, set⟩ := slotted_loads wide 2305843009213693952 (by decide +kernel)
  have many : maxSlots < (plan (slotted wide) (wanted 1) s).capacity := by
    rw [slotted_capacity, set]
    decide
  have around : (plan (slotted wide) (wanted 8) s).capacity = 0 := by
    rw [slotted_capacity, set]
    decide
  have beyond : Decimal.maxU64 <
      queueCapacity (wanted 8).services.length s.timing.queuePerService := by
    rw [set]
    decide
  refine ⟨s, loaded 1, set, ⟨by decide, many, ?_⟩, by decide, beyond, around, ?_⟩
  · exact slotted_breaks_off (loaded 1) (by decide)
      (slotted_admitted wide 1 (by decide +kernel)) (by omega)
  · exact slotted_breaks_off (loaded 8) (by decide)
      (slotted_admitted wide 8 (by decide +kernel)) (by omega)

end Application

end Chronicle
