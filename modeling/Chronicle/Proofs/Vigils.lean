import Chronicle.Proofs.Dialogues
import Chronicle.Proofs.Lines
/-!
# No change is missed

A watch and the container that it watches. The status of the container changes at any time, and for
each change the daemon sends every subscription one event, some time after it reports the new
status. `Vigil.Step` lets all of this happen in any order, with the bytes of the events cut in any
way. A watch that listens is never behind: when no event is on its way to it, the container is not
in a wanted phase (`Vigil.Reachable.misses_nothing`).
-/

namespace Chronicle

/-- Something that happens to a watch: its subscription is confirmed, or the daemon answers an
inspection and reports a status. -/
inductive Happening where
  | subscribed
  | inspected (status : Option String)

/-- A watch and what it watches. -/
structure Vigil where
  watch : Watch := {}
  /-- What the daemon reports. Without a status there is no such container. -/
  status : Option String
  /-- The events of changes that the daemon has not sent yet. -/
  owed : List (List UInt8) := []
  /-- The daemon has the subscription. -/
  subscribed : Bool := false
  /-- What was sent to the subscription and has not been heard. -/
  transit : List UInt8 := []
  /-- The answer to an inspection, on its way. -/
  answer : Option (Except Fault Phase) := none
  /-- What has happened, in order. -/
  past : List Happening := []

/-- A watch that goes on inspects again if it holds a whole event, and else it listens. -/
theorem Watch.proceed_cases (w : Watch) :
    (w.proceed.stage = .inspecting) ∨
      newline ∉ w.lines.held ∧ w.proceed = { w with stage := .listening } := by
  unfold Watch.proceed Splitter.next?
  rcases exists_line w.lines.held with unended | ⟨line, rest, held, whole⟩
  · exact .inr ⟨unended, by simp [cutAtNewline_of_tail unended]⟩
  · exact .inl (by simp [held, cutAtNewline_of_line whole])

namespace Vigil

/-- The next thing to happen. A status may change to what it was. -/
inductive Step (name : String) (wanted : Phase → Bool) : Vigil → Vigil → Prop where
  | changes {v : Vigil} (status : Option String) (event : List UInt8) :
      Step name wanted v { v with status, owed := v.owed ++ [event] }
  | sends {v : Vigil} {event : List UInt8} {rest : List (List UInt8)}
      (due : v.owed = event :: rest) :
      Step name wanted v
        { v with
          owed := rest
          transit := if v.subscribed then v.transit ++ event ++ [newline] else v.transit }
  | registers {v : Vigil} (asks : v.watch.stage = .subscribing) :
      Step name wanted v { v with subscribed := true }
  | confirms {v : Vigil} (asks : v.watch.stage = .subscribing) (registered : v.subscribed = true) :
      Step name wanted v
        { v with
          watch := v.watch.handle wanted (.subscribed (.ok ()))
          past := v.past ++ [.subscribed] }
  | refuses {v : Vigil} (asks : v.watch.stage = .subscribing) (fault : Fault) :
      Step name wanted v { v with watch := v.watch.handle wanted (.subscribed (.error fault)) }
  | inspects {v : Vigil} {c c' : Connection} {answer : Except Fault Phase}
      (asks : v.watch.stage = .inspecting) (free : v.answer = none)
      (reports : c.Reports name v.status) (yields : (Client.phase name).Yields c answer c') :
      Step name wanted v
        { v with answer := some answer, past := v.past ++ [.inspected v.status] }
  | misses {v : Vigil} (asks : v.watch.stage = .inspecting) (free : v.answer = none)
      (fault : Fault) : Step name wanted v { v with answer := some (.error fault) }
  | learns {v : Vigil} {answer : Except Fault Phase} (comes : v.answer = some answer) :
      Step name wanted v
        { v with watch := v.watch.handle wanted (.inspected answer), answer := none }
  | hears {v : Vigil} (chunk : List UInt8) {rest : List UInt8}
      (listens : v.watch.stage = .listening) (cut : v.transit = chunk ++ rest) :
      Step name wanted v
        { v with watch := v.watch.handle wanted (.heard (.data chunk)), transit := rest }
  | skips {v : Vigil} (listens : v.watch.stage = .listening) :
      Step name wanted v { v with watch := v.watch.handle wanted (.heard .trailer) }
  | ends {v : Vigil} (listens : v.watch.stage = .listening) :
      Step name wanted v { v with watch := v.watch.handle wanted .ended }
  | breaks {v : Vigil} (listens : v.watch.stage = .listening) :
      Step name wanted v { v with watch := v.watch.handle wanted .broke }

/-- States that a vigil can come to. -/
inductive Reachable (name : String) (wanted : Phase → Bool) (v₀ : Vigil) : Vigil → Prop where
  | start : Reachable name wanted v₀ v₀
  | step {v v' : Vigil} (before : Reachable name wanted v₀ v) (step : Step name wanted v v') :
      Reachable name wanted v₀ v'

/-- A vigil at its start, when the daemon may still owe events of earlier changes. -/
def start (status : Option String) (owed : List (List UInt8)) : Vigil := { status, owed }

/-- Another event will make the watch look at the phase. -/
def Expects (v : Vigil) : Prop :=
  v.owed ≠ [] ∨ newline ∈ v.transit ∨ newline ∈ v.watch.lines.held

/-- After the subscription was confirmed an inspection has found this phase. -/
def Found (past : List Happening) (phase : Phase) : Prop :=
  ∃ before between status after,
    past = before ++ .subscribed :: between ++ .inspected status :: after ∧
      Phase.reported status = phase

/-- What is known at each stage of the watch. -/
def Kept (wanted : Phase → Bool) (v : Vigil) : Prop :=
  match v.watch.stage with
  | .subscribing => v.answer = none
  | .inspecting => v.subscribed = true ∧ .subscribed ∈ v.past ∧
      ∀ phase, v.answer = some (.ok phase) →
        Found v.past phase ∧ (phase = Phase.reported v.status ∨ v.Expects)
  | .listening => v.subscribed = true ∧ .subscribed ∈ v.past ∧ v.answer = none ∧
      newline ∉ v.watch.lines.held ∧ (wanted (Phase.reported v.status) = false ∨ v.Expects)
  | .finished result => v.answer = none ∧
      (result = .ok () → ∃ phase, Found v.past phase ∧ wanted phase = true)

variable {name : String} {wanted : Phase → Bool} {v v' v₀ : Vigil}

/-! ## What a step keeps -/

theorem Found.append {past : List Happening} {phase : Phase} (found : Found past phase)
    (more : List Happening) : Found (past ++ more) phase := by
  obtain ⟨before, between, status, after, rfl, same⟩ := found
  exact ⟨before, between, status, after ++ more, by simp, same⟩

theorem found_of_inspected {past : List Happening} (subscribed : .subscribed ∈ past)
    (status : Option String) : Found (past ++ [.inspected status]) (Phase.reported status) := by
  obtain ⟨before, between, rfl⟩ := List.append_of_mem subscribed
  exact ⟨before, between, status, [], by simp, rfl⟩

theorem kept_proceed {w : Watch} (registered : v.subscribed = true)
    (confirmed : .subscribed ∈ v.past) (free : v.answer = none)
    (ahead : wanted (Phase.reported v.status) = false ∨ Expects { v with watch := w }) :
    Kept wanted { v with watch := w.proceed } := by
  rcases w.proceed_cases with again | ⟨unended, listens⟩
  · simp [Kept, again, registered, confirmed, free]
  · rw [listens]
    exact ⟨registered, confirmed, free, unended, ahead⟩

/-- A vigil goes on knowing what it knew while the daemon does something. -/
theorem Kept.of_daemon (kept : Kept wanted v) (watch : v'.watch = v.watch)
    (subscribed : v.subscribed = true → v'.subscribed = true) (answer : v'.answer = v.answer)
    (past : v'.past = v.past)
    (ahead : v.subscribed = true → v'.status = v.status ∧ (v.Expects → v'.Expects) ∨ v'.Expects) :
    Kept wanted v' := by
  unfold Kept at kept ⊢
  rw [watch, answer, past]
  split at kept
  · next stage => simpa [stage] using kept
  · next stage =>
    obtain ⟨registered, confirmed, found⟩ := kept
    refine ⟨subscribed registered, confirmed, ?_⟩
    intro phase told
    refine ⟨(found phase told).1, ?_⟩
    rcases ahead registered with ⟨same, more⟩ | expects
    · exact same ▸ (found phase told).2.imp_right more
    · exact .inr expects
  · next stage =>
    obtain ⟨registered, confirmed, free, unended, behind⟩ := kept
    refine ⟨subscribed registered, confirmed, free, unended, ?_⟩
    rcases ahead registered with ⟨same, more⟩ | expects
    · exact same ▸ behind.imp_right more
    · exact .inr expects
  · next stage => simpa [stage] using kept

/-- What an answer says was so when it was given; since then nothing changed that no event tells. -/
theorem Kept.learns (kept : Kept wanted v) {answer : Except Fault Phase}
    (comes : v.answer = some answer) :
    Kept wanted { v with watch := v.watch.handle wanted (.inspected answer), answer := none } := by
  -- Only a watch that inspects waits for an answer.
  have asks : v.watch.stage = .inspecting := by
    unfold Kept at kept
    split at kept <;> simp_all
  simp only [Kept, asks] at kept
  obtain ⟨registered, confirmed, found⟩ := kept
  cases answer with
  | error fault => simp [Kept, Watch.handle, asks, Watch.fail]
  | ok phase =>
    obtain ⟨found, same⟩ := found phase comes
    cases satisfied : wanted phase with
    | true =>
      simp only [Watch.handle, asks, satisfied, if_true, Kept]
      exact ⟨trivial, fun _ => ⟨phase, found, satisfied⟩⟩
    | false =>
      simp only [Watch.handle, asks, satisfied, Bool.false_eq_true, if_false]
      refine kept_proceed (v := { v with answer := none }) registered confirmed rfl ?_
      rcases same with rfl | expects
      · exact .inl satisfied
      · exact .inr expects

theorem Kept.hears (kept : Kept wanted v) {chunk rest : List UInt8}
    (listens : v.watch.stage = .listening) (cut : v.transit = chunk ++ rest) :
    Kept wanted
      { v with watch := v.watch.handle wanted (.heard (.data chunk)), transit := rest } := by
  simp only [Kept, listens] at kept
  obtain ⟨registered, confirmed, free, unended, behind⟩ := kept
  simp only [Watch.handle, listens]
  refine kept_proceed (v := { v with transit := rest }) registered confirmed free ?_
  refine behind.imp_right fun expects => ?_
  -- What was in transit is held now, or still in transit.
  have expects : v.owed ≠ [] ∨ newline ∈ v.transit := by simpa [Expects, unended] using expects
  rw [cut, List.mem_append] at expects
  rcases expects with owed | now | later
  · exact .inl owed
  · exact .inr (.inr (by simp [Splitter.push, now]))
  · exact .inr (.inl later)

theorem Kept.step (kept : Kept wanted v) (step : Step name wanted v v') : Kept wanted v' := by
  cases step with
  | changes status event =>
    refine kept.of_daemon rfl id rfl rfl fun _ => .inr (.inl ?_)
    simp
  | @sends event rest due =>
    refine kept.of_daemon rfl id rfl rfl fun registered => .inr (.inr (.inl ?_))
    simp [registered]
  | registers asks => exact kept.of_daemon rfl (fun _ => rfl) rfl rfl fun _ => .inl ⟨rfl, id⟩
  | confirms asks registered =>
    simp only [Kept, asks] at kept
    simp [Kept, Watch.handle, asks, registered, kept]
  | refuses asks fault =>
    simp only [Kept, asks] at kept
    simp [Kept, Watch.handle, asks, Watch.fail, kept]
  | @inspects c c' answer asks free reports yields =>
    simp only [Kept, asks] at kept ⊢
    obtain ⟨registered, confirmed, -⟩ := kept
    obtain ⟨_, phase⟩ := Client.phase_of_reports reports
    obtain rfl := yields.unique phase
    refine ⟨registered, by simp [confirmed], ?_⟩
    rintro _ ⟨⟩
    exact ⟨found_of_inspected confirmed v.status, .inl rfl⟩
  | misses asks free fault =>
    simp only [Kept, asks] at kept ⊢
    exact ⟨kept.1, kept.2.1, by simp⟩
  | learns comes => exact kept.learns comes
  | hears chunk listens cut => exact kept.hears listens cut
  | skips listens =>
    have same : v.watch.handle wanted (.heard .trailer) = v.watch := by
      simp [Watch.handle, listens]
    rwa [same]
  | ends listens | breaks listens =>
    simp only [Kept, listens] at kept
    simp [Kept, Watch.handle, listens, Watch.fail, kept]

theorem Reachable.kept {status : Option String} {owed : List (List UInt8)}
    (reach : Reachable name wanted (Vigil.start status owed) v) : Kept wanted v := by
  induction reach with
  | start => rfl
  | step _ step ih => exact ih.step step

/-- A watch never sleeps through a change. Whenever it listens and no event is on its way to it, the
container is in no wanted phase; and it succeeds only after an inspection that was made after its
subscription was confirmed and found a wanted phase. -/
theorem Reachable.misses_nothing {status : Option String} {owed : List (List UInt8)}
    (reach : Reachable name wanted (Vigil.start status owed) v) :
    (v.watch.stage = .listening → v.owed = [] → v.transit = [] →
      wanted (Phase.reported v.status) = false) ∧
    (v.watch.result? = some (.ok ()) → ∃ before between status after,
      v.past = before ++ .subscribed :: between ++ .inspected status :: after ∧
        wanted (Phase.reported status) = true) := by
  have kept := reach.kept
  constructor
  · intro listens paid heard
    simp only [Kept, listens] at kept
    obtain ⟨-, -, -, unended, behind⟩ := kept
    exact behind.resolve_right (by simp [Expects, paid, heard, unended])
  · intro done
    have stage : v.watch.stage = .finished (.ok ()) := by
      unfold Watch.result? at done
      split at done <;> simp_all
    simp only [Kept, stage] at kept
    obtain ⟨phase, ⟨before, between, status, after, past, rfl⟩, satisfied⟩ := kept.2 trivial
    exact ⟨before, between, status, after, past, satisfied⟩

/-- A connection to a daemon that knows one container. -/
def telling (status : String) : Connection where
  endpoint := .network "localhost:2375"
  daemon := { containers := [("web", { inspect := [.telling status] })] }

theorem telling_reports :
    ∀ status ∈ ["exited", "restarting", "running"], (telling status).Reports "web" status := by
  have reads : ∀ status ∈ ["exited", "restarting", "running"], Container.report status ≠ [] ∧
      (Container.read (Container.report status)).toOption = some { status } := by decide +kernel
  intro status listed
  obtain ⟨something, read⟩ := reads status listed
  refine ⟨rfl, by decide +kernel, ?_⟩
  cases result : Container.read (Container.report status) with
  | error defect =>
    rw [result] at read
    cases read
  | ok container =>
    rw [result] at read
    obtain rfl : container = { status } := Option.some.inj read
    exact .known rfl (by simp [Body.collect, Body.ofBytes, something]) result

/-- The container is restarted while the watch looks, and runs when the watch has looked again. -/
theorem running_is_not_missed : ∃ v u,
    Reachable "web" (· == .running) (.start (some "exited") []) v ∧
    v.watch.stage = .listening ∧ v.status = some "restarting" ∧
    (Phase.reported v.status == .running) = false ∧
    Reachable "web" (· == .running) (.start (some "exited") []) u ∧
    u.watch.result? = some (.ok ()) ∧ ∃ before between status after,
      u.past = before ++ .subscribed :: between ++ .inspected status :: after ∧
        (Phase.reported status == .running) = true := by
  have exited := telling_reports "exited" (by simp)
  have restarting := telling_reports "restarting" (by simp)
  have running := telling_reports "running" (by simp)
  obtain ⟨_, first⟩ := Client.phase_of_reports exited
  obtain ⟨_, second⟩ := Client.phase_of_reports restarting
  obtain ⟨_, third⟩ := Client.phase_of_reports running
  have begins : Reachable "web" (· == .running) (.start (some "exited") []) _ := .start
  have subscribes := (begins.step (.registers rfl)).step (.confirms rfl rfl)
  have changes := (subscribes.step (.inspects rfl rfl exited first)).step
    (.changes (some "restarting") [123, 125])
  have listens := (changes.step (.learns rfl)).step (.sends rfl)
  -- The event comes in two pieces.
  have hears := (listens.step (.hears [123] rfl rfl)).step
    (.hears [125, newline] rfl rfl)
  have waits := (hears.step (.inspects rfl rfl restarting second)).step (.learns rfl)
  have runs := ((waits.step (.changes (some "running") [])).step (.sends rfl)).step
    (.hears [newline] rfl rfl)
  have done := (runs.step (.inspects rfl rfl running third)).step (.learns rfl)
  exact ⟨_, _, waits, rfl, rfl, waits.misses_nothing.1 rfl rfl rfl, done, rfl,
    done.misses_nothing.2 rfl⟩

end Vigil

end Chronicle
