import Chronicle.Command.Application
import Chronicle.Proofs.Requests
/-!
# Nothing is printed before every service has run

`Client.Interview` follows a client that asks one service after the other whether it has ever run.
The gate asks up to the first service of which it is not told so (`ensureStarted_interview`), and
the application goes on to the logs only if there is none: `Application.asks_before_printing`.
-/

namespace Chronicle

namespace Client

variable {c c' : Connection} {service : String} {r : Request}

/-! ## What a client is told -/

/-- The daemon answers that a container has run, or that it never has. -/
structure Tells (c : Connection) (service : String) (b : Bool) : Prop where
  reaches : Reaches c (.inspect service)
  told : ∃ response bs container,
    (c.daemon.reply (.inspect service)).1.answer = .response response ∧
    response.isSuccess = true ∧ response.body.collect = some (.ok bs) ∧
    Container.read bs = .ok container ∧ container.hasStarted = b

/-- Content comes from a reply that is a success. -/
theorem content_of_reply {reply : Reply} {content : Content}
    (yields : (contentOf r reply).Yields c (.ok content) c') :
    ∃ response, reply.answer = .response response ∧ response.isSuccess = true ∧
      content.body = response.body := by
  unfold contentOf at yields
  split at yields
  · cases yields.1
  · cases yields.1
  · next response answer =>
    split at yields
    · next success =>
      obtain rfl := yields.of_pure
      exact ⟨response, answer, success, rfl⟩
    · split at yields
      · cases yields.1
      · obtain ⟨bs, _, -, fails⟩ := Asking.Yields.of_bind yields
        cases fails.1

theorem content_of_get {content : Content} (yields : (get r).Yields c (.ok content) c') :
    Reaches c r ∧ ∃ response, (c.daemon.reply r).1.answer = .response response ∧
      response.isSuccess = true ∧ content.body = response.body := by
  by_cases reaches : Reaches c r
  · have replied : (contentOf r (c.daemon.reply r).1).Yields (exchange r c).2 (.ok content) _ :=
      ⟨(get_of_reaches reaches).1.symm.trans yields.1, rfl⟩
    exact ⟨reaches, content_of_reply replied⟩
  · obtain ⟨fault, fails⟩ := get_of_not_reaches reaches
    cases fails.unique yields

theorem collected_of_yields {body : Body} {bs : List UInt8}
    (yields : (collect body).Yields c (.ok bs) c') : body.collect = some (.ok bs) := by
  unfold collect at yields
  split at yields
  · cases yields.1
  · next collected =>
    obtain rfl := yields.of_pure
    exact collected
  · cases yields.1

/-- A client has an answer exactly if the daemon gives it one. -/
theorem hasStarted_eq_iff {b : Bool} :
    ((hasStarted service).run c).1.result = some (.ok b) ↔ Tells c service b := by
  constructor
  · intro result
    have yields : (hasStarted service).Yields c (.ok b) _ := ⟨result, rfl⟩
    obtain ⟨container, _, inspects, returns⟩ := Asking.Yields.of_bind yields
    obtain rfl := returns.of_pure
    obtain ⟨content, _, gets, reads⟩ := Asking.Yields.of_bind inspects
    obtain ⟨bs, _, collects, reads⟩ := Asking.Yields.of_bind reads
    obtain ⟨reaches, response, answer, success, body⟩ := content_of_get gets
    have whole := collected_of_yields collects
    split at reads
    · next container' read =>
      obtain rfl := reads.of_pure
      exact ⟨reaches, response, bs, _, answer, success, body ▸ whole, read, rfl⟩
    · cases reads.1
  · rintro ⟨⟨clear, short⟩, response, bs, container, answer, success, whole, reads, rfl⟩
    have inspects := inspect_of_success ⟨clear, short, answer⟩ success whole reads
    have asks : (hasStarted service).Yields c (.ok container.hasStarted) _ :=
      .bind inspects (.pure _)
    exact asks.1

/-! ## One service after the other -/

/-- A client asks one service after the other whether it has ever run. What it is told of each is
listed in order; nothing is told if no answer comes. -/
inductive Interview : Connection → List (String × Option (Except Fault Bool)) → Connection → Prop
    where
  | done {c : Connection} : Interview c [] c
  | asks {c c' : Connection} {service : String}
      {answers : List (String × Option (Except Fault Bool))}
      (more : Interview ((hasStarted service).run c).2 answers c') :
      Interview c ((service, ((hasStarted service).run c).1.result) :: answers) c'

/-- A service and the answer that it has run. -/
def started (service : String) : String × Option (Except Fault Bool) := (service, some (.ok true))

theorem reaches_of_started (answer : ((hasStarted service).run c).1.result = some (.ok true)) :
    Reaches c (.inspect service) :=
  (hasStarted_eq_iff.1 answer).reaches

/-- Asking is done on one connection, with a request for each question that can be sent. -/
theorem Interview.requests {answers : List (String × Option (Except Fault Bool))}
    (interview : Interview c answers c') :
    c'.endpoint = c.endpoint ∧
    (∀ r, Reaches c' r ↔ Reaches c r) ∧
    c'.asked.reverse = c.asked.reverse ++
      (answers.map fun a => Request.inspect a.1).filter fun r => decide (Reaches c r) := by
  induction interview with
  | done => simp
  | @asks c c' service answers more ih =>
    rw [hasStarted_connection] at ih
    by_cases sent : Reaches c (.inspect service)
    · simpa [sent] using ih
    · simpa [sent] using ih

/-- Who has answered was reached. -/
theorem Interview.reached {answers : List (String × Option (Except Fault Bool))}
    (interview : Interview c answers c') :
    ∀ a ∈ answers, a.2 = some (.ok true) → Reaches c (.inspect a.1) := by
  induction interview with
  | done => simp
  | @asks c c' service answers more ih =>
    refine List.forall_mem_cons.2 ⟨reaches_of_started, ?_⟩
    intro a mem answer
    have reached := ih a mem answer
    rw [hasStarted_connection] at reached
    split at reached
    · exact reached
    · exact reached

end Client

/-! ## The gate -/

/-- What the gate makes of a service's answer. -/
def gateVerdict (service : String) : Except Fault Bool → Except GateFault Unit
  | .error fault => .error (.lookUp service fault)
  | .ok false => .error (.notStarted service)
  | .ok true => .ok ()

namespace Client

/-- The gate of a client. -/
def gate (services : List String) : Dialogue (Except GateFault Unit) :=
  ensureStarted (fun service => (hasStarted service).run) services

theorem gate_started (rest : List String)
    (runs : ((hasStarted service).run c).1.result = some (.ok true)) :
    (gate (service :: rest) c).1.result = (gate rest ((hasStarted service).run c).2).1.result ∧
      (gate (service :: rest) c).2 = (gate rest ((hasStarted service).run c).2).2 := by
  rw [gate, ensureStarted]
  exact Dialogue.andThen_some _ runs

theorem gate_stopped (rest : List String)
    (offends : ((hasStarted service).run c).1.result ≠ some (.ok true)) :
    (gate (service :: rest) c).1.result =
        ((hasStarted service).run c).1.result.map (gateVerdict service) ∧
      (gate (service :: rest) c).2 = ((hasStarted service).run c).2 := by
  rw [gate, ensureStarted]
  match answer : ((hasStarted service).run c).1.result with
  | none => exact Dialogue.andThen_none _ answer
  | some (.error fault) => exact Dialogue.andThen_some _ answer
  | some (.ok false) => exact Dialogue.andThen_some _ answer
  | some (.ok true) => exact absurd answer offends

/-- The gate asks all services and all have run, or it asks up to the first of which it is not told
so. -/
theorem gate_interview (services : List String) (c : Connection) :
    (Interview c (services.map started) (gate services c).2 ∧
      (gate services c).1.result = some (.ok ())) ∨
    ∃ before after service answer, services = before ++ service :: after ∧
      answer ≠ some (.ok true) ∧
      Interview c (before.map started ++ [(service, answer)]) (gate services c).2 ∧
      (gate services c).1.result = answer.map (gateVerdict service) := by
  induction services generalizing c with
  | nil => exact .inl ⟨.done, rfl⟩
  | cons service rest ih =>
    by_cases runs : ((hasStarted service).run c).1.result = some (.ok true)
    · obtain ⟨result, connection⟩ := gate_started rest runs
      rw [result, connection]
      have first {answers : List (String × Option (Except Fault Bool))} {c' : Connection}
          (more : Interview ((hasStarted service).run c).2 answers c') :
          Interview c (started service :: answers) c' := by
        have asked := more.asks
        rwa [runs] at asked
      rcases ih ((hasStarted service).run c).2 with ⟨interview, passed⟩ |
        ⟨before, after, other, answer, rfl, offends, interview, stopped⟩
      · exact .inl ⟨first interview, passed⟩
      · exact .inr
          ⟨service :: before, after, other, answer, rfl, offends, first interview, stopped⟩
    · obtain ⟨result, connection⟩ := gate_stopped rest runs
      rw [result, connection]
      exact .inr ⟨[], rest, service, _, rfl, runs, .asks .done, rfl⟩

end Client

/-! ## The application -/

namespace Application

/-- How the application ends when a service is kept out: it waits for an answer that never comes, or
it fails with an error that names the service before all else. -/
inductive Refuses (service : String) :
    Option (Except Fault Bool) → Option (Except Trouble Unit) → Prop where
  | waits : Refuses service none none
  | lookUp {fault : Fault} {t : Trouble}
      (names : t.causes.head? = some (.said ("look up " ++ service))) :
      Refuses service (some (.error fault)) (some (.error t))
  | notStarted {t : Trouble}
      (names : t.causes.head? = some (.said (service ++ " has not started yet"))) :
      Refuses service (some (.ok false)) (some (.error t))

variable {h : Host} {call : Invocation} {s : Settings} {endpoint : Endpoint}

/-- The application's connection before it has asked anything. -/
def connection (h : Host) (endpoint : Endpoint) : Connection :=
  { endpoint, obstacle := h.obstacle endpoint, daemon := h.daemon }

theorem run_eq (loaded : Settings.load h.files h.environment call.config = .ok s)
    (accepted : Endpoint.read
      (resolveHost call.dockerHost (h.environment.get? "DOCKER_HOST") s.host) = .ok endpoint) :
    run h call = print h call s (connection h endpoint) := by
  unfold run
  simp only [loaded, accepted]
  rfl

/-- Who is admitted goes on asking on the same connection. -/
theorem print_of_admitted {c : Connection}
    (admitted : (Client.gate call.services c).1.result = some (.ok ())) :
    ∃ c', (Client.gate call.services c).2.Extends c' ∧
      (print h call s c).requests = requestsOf c' := by
  let printer : Printer :=
    { layout := layout h call s, window := s.timing.window, follow := call.follow }
  refine ⟨((plan h call s).run (Client.gate call.services c).2 printer none h.horizon).2,
    Plan.run_extends rfl _ _ _ _, ?_⟩
  have admitted' : (ensureStarted (fun service => (Client.hasStarted service).run) call.services
      c).1.result = some (.ok ()) := admitted
  simp only [print, admitted']
  rfl

theorem print_of_kept_out {c : Connection}
    (keptOut : (Client.gate call.services c).1.result ≠ some (.ok ())) :
    (print h call s c).requests = requestsOf (Client.gate call.services c).2 ∧
      (print h call s c).output = [] ∧
      (print h call s c).result =
        (Client.gate call.services c).1.result.map (Except.mapError Trouble.gate) := by
  match gated : (Client.gate call.services c).1.result with
  | none | some (.error _) =>
    have gated' : (ensureStarted (fun service => (Client.hasStarted service).run) call.services
      c).1.result = _ := gated
    refine ⟨?_, ?_, ?_⟩ <;> simp only [print, gated'] <;> rfl
  | some (.ok ()) => exact absurd gated keptOut

/-- All services have run, and before anything else the daemon is asked about each in order. -/
structure Admits (h : Host) (call : Invocation) (endpoint : Endpoint) : Prop where
  told : ∃ c', Client.Interview (connection h endpoint) (call.services.map Client.started) c'
  requests : (call.services.map fun service => (endpoint, Request.inspect service)) <+:
    (run h call).requests

/-- The services before this one have run, and of this one the daemon has not said so. It has been
asked about them in order and about nothing else, and nothing is printed. -/
structure KeepsOut (h : Host) (call : Invocation) (endpoint : Endpoint) (before : List String)
    (service : String) (answer : Option (Except Fault Bool)) : Prop where
  services : ∃ after, call.services = before ++ service :: after
  told : ∃ c', Client.Interview (connection h endpoint)
    (before.map Client.started ++ [(service, answer)]) c'
  offends : answer ≠ some (.ok true)
  requests : (run h call).requests =
    (before ++ if Client.Reaches (connection h endpoint) (.inspect service) then [service] else
      []).map fun service => (endpoint, .inspect service)
  output : (run h call).output = []
  result : Refuses service answer (run h call).result

theorem refuses_of_gated {service : String} {answer : Option (Except Fault Bool)}
    (offends : answer ≠ some (.ok true)) :
    Refuses service answer ((answer.map (gateVerdict service)).map (Except.mapError .gate)) := by
  match answer, offends with
  | none, _ => exact .waits
  | some (.error fault), _ => exact .lookUp rfl
  | some (.ok false), _ => exact .notStarted rfl
  | some (.ok true), offends => exact absurd rfl offends

/-- The requests that a client has made on the application's connection. -/
theorem requestsOf_interview {answers : List (String × Option (Except Fault Bool))}
    {c' : Connection} (interview : Client.Interview (connection h endpoint) answers c') :
    requestsOf c' = ((answers.map fun a => Request.inspect a.1).filter fun r =>
      decide (Client.Reaches (connection h endpoint) r)).map (endpoint, ·) := by
  obtain ⟨same, -, asked⟩ := interview.requests
  rw [requestsOf, same, asked]
  rfl

theorem requestsOf_extends {c c' : Connection} (more : c.Extends c') :
    requestsOf c <+: requestsOf c' := by
  obtain ⟨same, asked⟩ := more
  rw [requestsOf, requestsOf, same]
  exact (List.reverse_prefix.2 asked).map _

theorem admits_or_keepsOut
    (loaded : Settings.load h.files h.environment call.config = .ok s)
    (accepted : Endpoint.read
      (resolveHost call.dockerHost (h.environment.get? "DOCKER_HOST") s.host) = .ok endpoint) :
    Admits h call endpoint ∨
      ∃ before service answer, KeepsOut h call endpoint before service answer := by
  have ran := run_eq loaded accepted
  rcases Client.gate_interview call.services (connection h endpoint) with
    ⟨interview, passed⟩ | ⟨before, after, service, answer, services, offends, interview, stopped⟩
  · obtain ⟨c', more, requests⟩ := print_of_admitted (h := h) (s := s) passed
    refine .inl ⟨⟨_, interview⟩, ?_⟩
    have asked : requestsOf (Client.gate call.services (connection h endpoint)).2 =
        call.services.map fun service => (endpoint, Request.inspect service) := by
      rw [requestsOf_interview interview, List.filter_eq_self.2]
      · simp [Client.started]
      · simpa [Client.started] using interview.reached
    rw [ran, requests, ← asked]
    exact requestsOf_extends more
  · have keptOut :
        (Client.gate call.services (connection h endpoint)).1.result ≠ some (.ok ()) := by
      rw [stopped]
      match answer, offends with
      | none, _ | some (.error _), _ | some (.ok false), _ => simp [gateVerdict]
      | some (.ok true), offends => exact absurd rfl offends
    obtain ⟨requests, output, result⟩ := print_of_kept_out (h := h) (s := s) keptOut
    refine .inr ⟨before, service, answer, ⟨after, services⟩, ⟨_, interview⟩, offends, ?_, ?_, ?_⟩
    · rw [ran, requests, requestsOf_interview interview, List.map_append, List.filter_append,
        List.filter_eq_self.2]
      · by_cases reaches : Client.Reaches (connection h endpoint) (.inspect service)
        · simp [Client.started, reaches]
        · simp [Client.started, reaches]
      · intro r mem
        obtain ⟨a, told, rfl⟩ := List.mem_map.1 mem
        obtain ⟨asked, -, rfl⟩ := List.mem_map.1 told
        exact decide_eq_true (interview.reached _ (List.mem_append_left _ told) rfl)
    · rw [ran, output]
    · rw [ran, result, stopped]
      exact refuses_of_gated offends

/-- Once the settings are loaded and the daemon's address is accepted, the application asks the
daemon about its services in order, up to the first of which it is not told that it has run. It
prints something or asks for anything else only if there is no such service, and otherwise its error
names that service before all else. What it is told of a service is what the daemon answers. -/
theorem asks_before_printing
    (loaded : Settings.load h.files h.environment call.config = .ok s)
    (accepted : Endpoint.read
      (resolveHost call.dockerHost (h.environment.get? "DOCKER_HOST") s.host) = .ok endpoint) :
    (∀ (c : Connection) (service : String) (b : Bool),
      ((Client.hasStarted service).run c).1.result = some (.ok b) ↔ Client.Tells c service b) ∧
    (Admits h call endpoint ∨
      ∃ before service answer, KeepsOut h call endpoint before service answer) ∧
    ((run h call).output ≠ [] ∨ (∃ r ∈ (run h call).requests, ∀ name, r.2 ≠ .inspect name) →
      Admits h call endpoint) := by
  have cases := admits_or_keepsOut loaded accepted
  refine ⟨fun _ _ _ => Client.hasStarted_eq_iff, cases, ?_⟩
  intro seen
  rcases cases with admits | ⟨before, service, answer, keepsOut⟩
  · exact admits
  · rcases seen with prints | ⟨r, asked, other⟩
    · exact absurd keepsOut.output prints
    · rw [keepsOut.requests] at asked
      obtain ⟨name, -, rfl⟩ := List.mem_map.1 asked
      exact absurd rfl (other name)

/-- A reply that says when a container has started. -/
def startedAt (time : String) : Reply where
  answer := .response {
    status := 200
    body := .ofBytes (Utf8.bytes ("\x7b\"State\":\x7b\"StartedAt\":\"" ++ time ++ "\"\x7d\x7d")) 0 }

/-- A daemon with one container that has run and one that has not. -/
def halfStarted : Host where
  files := fun _ => none
  obstacle := fun _ => none
  daemon := {
    containers := [("web", { inspect := [startedAt "2024-01-15T10:00:00Z"] }),
      ("db", { inspect := [startedAt "0001-01-01T00:00:00Z"] })]
  }
  start := ⟨1700000000, 0⟩
  horizon := 1000

/-- Both logs are wanted, the first of them twice. -/
def bothWanted : Invocation where
  dockerHost := some "tcp://localhost:2375"
  services := ["web", "db", "web"]

theorem halfStarted_keepsOut :
    (∃ s, Settings.load halfStarted.files halfStarted.environment bothWanted.config = .ok s) ∧
    (run halfStarted bothWanted).requests =
      ["web", "db"].map (fun service => (.network "localhost:2375", .inspect service)) ∧
    ∃ before service answer,
      KeepsOut halfStarted bothWanted (.network "localhost:2375") before service answer := by
  obtain ⟨s, loaded⟩ : ∃ s,
      Settings.load halfStarted.files halfStarted.environment bothWanted.config = .ok s := by
    have loads : (Settings.load halfStarted.files halfStarted.environment
        bothWanted.config).toBool = true := by
      decide +kernel
    cases loaded : Settings.load halfStarted.files halfStarted.environment bothWanted.config with
    | ok s => exact ⟨s, rfl⟩
    | error fault => simp [loaded, Except.toBool] at loads
  have accepted : Endpoint.read (resolveHost bothWanted.dockerHost
      (halfStarted.environment.get? "DOCKER_HOST") s.host) = .ok (.network "localhost:2375") := by
    show Endpoint.read "tcp://localhost:2375" = _
    rfl
  have requests : (run halfStarted bothWanted).requests =
      ["web", "db"].map (fun service => (.network "localhost:2375", .inspect service)) := by
    decide +kernel
  refine ⟨⟨s, loaded⟩, requests, ?_⟩
  obtain ⟨-, admits | keepsOut, -⟩ := asks_before_printing loaded accepted
  · -- The third service is never asked about.
    have asked := admits.requests.length_le
    rw [requests] at asked
    exact absurd asked (by decide)
  · exact keepsOut

end Application

end Chronicle
