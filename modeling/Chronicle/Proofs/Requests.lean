import Chronicle.Proofs.Dialogues
import Chronicle.Proofs.Schedule
/-!
# Which requests are made

A dialogue takes the connection on which it runs to one on which more may have been asked.
`Dialogue.Goes` relates the two whatever comes of the dialogue, also if it never ends. A client that
asks whether a container has ever run makes one request, or none if it cannot reach the daemon
(`Client.hasStarted_connection`), and a run makes its requests after those that were made before it
(`Plan.run_extends`).
-/

namespace Chronicle

/-! ## From step to step -/

/-- A relation that holds over any number of steps if it holds over each of them. -/
structure Lasting {α : Type} (R : α → α → Prop) : Prop where
  refl : ∀ a, R a a
  trans : ∀ {a b c}, R a b → R b c → R a c

/-- The same connection after some more requests. -/
structure Connection.Extends (c c' : Connection) : Prop where
  endpoint : c'.endpoint = c.endpoint
  asked : c.asked <:+ c'.asked

theorem Connection.extends_lasting : Lasting Connection.Extends where
  refl _ := ⟨rfl, List.suffix_refl _⟩
  trans h k := ⟨k.endpoint.trans h.endpoint, h.asked.trans k.asked⟩

theorem eq_lasting {α : Type} : Lasting (Eq (α := α)) := ⟨fun _ => rfl, Eq.trans⟩

/-- Whatever comes of it, the dialogue takes a connection to one that is related to it. -/
def Dialogue.Goes {α : Type} (R : Connection → Connection → Prop) (m : Dialogue α) : Prop :=
  ∀ c, R c (m c).2

section Goes

variable {α β : Type} {R : Connection → Connection → Prop} {c c' : Connection}

theorem Dialogue.andThen_none {m : Dialogue α} (f : α → Dialogue β)
    (first : (m c).1.result = none) :
    (m.andThen f c).1.result = none ∧ (m.andThen f c).2 = (m c).2 := by
  simp [andThen, first]

theorem Dialogue.andThen_some {m : Dialogue α} (f : α → Dialogue β) {a : α}
    (first : (m c).1.result = some a) :
    (m.andThen f c).1.result = (f a (m c).2).1.result ∧
      (m.andThen f c).2 = (f a (m c).2).2 := by
  simp [andThen, first]

theorem Dialogue.Goes.result (lasting : Lasting R) (a : α) : (Dialogue.result a).Goes R :=
  lasting.refl

theorem Dialogue.Goes.bind {m : Dialogue α} {f : α → Dialogue β} (lasting : Lasting R)
    (first : m.Goes R) (second : ∀ a, (f a).Goes R) : (m >>= f).Goes R := by
  intro c
  show R c (andThen m f c).2
  cases result : (m c).1.result with
  | none => rw [(andThen_none f result).2]; exact first c
  | some a => rw [(andThen_some f result).2]; exact lasting.trans (first c) (second a _)

theorem Dialogue.Goes.unlessCancelled {m : Dialogue α} (goes : m.Goes R) :
    m.unlessCancelled.Goes R := goes

theorem Asking.goes_bind {m : Asking α} {f : α → Asking β} (lasting : Lasting R)
    (first : m.run.Goes R) (second : ∀ a, (f a).run.Goes R) : (m >>= f).run.Goes R := by
  refine Dialogue.Goes.bind lasting first ?_
  rintro (fault | a)
  · exact .result lasting _
  · exact second a

theorem Asking.goes_always {m : Dialogue α} (lasting : Lasting R) (goes : m.Goes R) :
    (Client.always m).run.Goes R :=
  Dialogue.Goes.bind lasting goes fun _ => .result lasting _

theorem Asking.goes_pure (lasting : Lasting R) (a : α) : (pure a : Asking α).run.Goes R :=
  lasting.refl

theorem Asking.goes_throw (lasting : Lasting R) (fault : Fault) :
    (throw fault : Asking α).run.Goes R :=
  lasting.refl

/-- What comes after a part that has ended is done on the connection it leaves. -/
theorem Asking.Yields.bind_eq {m : Asking α} {f : α → Asking β} {a : α}
    (first : m.Yields c (.ok a) c') :
    ((m >>= f).run c).1.result = ((f a).run c').1.result ∧
      ((m >>= f).run c).2 = ((f a).run c').2 := by
  obtain ⟨result, rfl⟩ := first
  exact Dialogue.andThen_some _ result

/-- A part that asks nothing leaves the connection as it is. -/
theorem Asking.bind_connection {m : Asking α} {f : α → Asking β}
    (idle : ∀ a, (f a).run.Goes Eq) : ((m >>= f).run c).2 = (m.run c).2 := by
  match result : (m.run c).1.result with
  | none => exact (Dialogue.andThen_none _ result).2
  | some (.error fault) => exact (Dialogue.andThen_some _ result).2
  | some (.ok a) => exact (Dialogue.andThen_some _ result).2.trans (idle a _).symm

end Goes

/-! ## The requests of a client -/

namespace Client

variable {R : Connection → Connection → Prop} {c c' : Connection} {name : String} {r : Request}

theorem collect_goes (lasting : Lasting R) (body : Body) : (collect body).run.Goes R := by
  unfold collect
  split
  · exact Asking.goes_always lasting lasting.refl
  · exact Asking.goes_pure lasting _
  · exact Asking.goes_throw lasting _

/-- What a client makes of the reply to a request. -/
def contentOf (r : Request) (reply : Reply) : Asking Content := do
  match reply.answer with
  | .silence => always .never
  | .failure => throw .http
  | .response response =>
    if response.isSuccess then return { body := response.body, atEnd := reply.atEnd }
    if response.status = 404 then throw (.notFound r.name)
    throw (.status response.status (errorMessage (← collect response.body)))

theorem contentOf_goes (lasting : Lasting R) (r : Request) (reply : Reply) :
    (contentOf r reply).run.Goes R := by
  unfold contentOf
  split
  · exact Asking.goes_always lasting lasting.refl
  · exact Asking.goes_throw lasting _
  · split
    · exact Asking.goes_pure lasting _
    · split
      · exact Asking.goes_bind lasting (Asking.goes_throw lasting _) fun _ =>
          Asking.goes_bind lasting (collect_goes lasting _) fun _ => Asking.goes_throw lasting _
      · exact Asking.goes_bind lasting (collect_goes lasting _) fun _ =>
          Asking.goes_throw lasting _

/-- A request can be made on the connection. -/
def Reaches (c : Connection) (r : Request) : Prop :=
  c.obstacle = none ∧ r.pathChars.length ≤ Request.maxPath

instance (c : Connection) (r : Request) : Decidable (Reaches c r) :=
  inferInstanceAs (Decidable (_ ∧ _))

@[simp]
theorem reaches_exchange (r' : Request) : Reaches (exchange r' c).2 r ↔ Reaches c r := .rfl

@[simp]
theorem asked_exchange (r : Request) : (exchange r c).2.asked = r :: c.asked := rfl

@[simp]
theorem endpoint_exchange (r : Request) : (exchange r c).2.endpoint = c.endpoint := rfl

theorem obstacle_of_reaches (reaches : Reaches c r) : (obstacle? r).Yields c none c := by
  obtain ⟨clear, short⟩ := reaches
  have : ¬ Request.maxPath < r.pathChars.length := Nat.not_lt.2 short
  simp [Dialogue.Yields, obstacle?, clear, this]

theorem obstacle_of_not_reaches (blocked : ¬ Reaches c r) :
    ∃ fault, (obstacle? r).Yields c (some fault) c := by
  cases obstacle : c.obstacle with
  | some kind => exact ⟨_, by simp [Dialogue.Yields, obstacle?, obstacle]; rfl⟩
  | none =>
    have long : Request.maxPath < r.pathChars.length := by
      simpa [Reaches, obstacle] using blocked
    exact ⟨_, by simp [Dialogue.Yields, obstacle?, obstacle, long]; rfl⟩

theorem get_of_not_reaches (blocked : ¬ Reaches c r) :
    ∃ fault, (get r).Yields c (.error fault) c := by
  obtain ⟨fault, found⟩ := obstacle_of_not_reaches blocked
  exact ⟨fault, .bind (.always found) (.bind_error (.throw fault))⟩

/-- A request that can be made is made, and the client makes something of the reply. -/
theorem get_of_reaches (reaches : Reaches c r) :
    ((get r).run c).1.result =
        ((contentOf r (c.daemon.reply r).1).run (exchange r c).2).1.result ∧
      ((get r).run c).2 = (exchange r c).2 := by
  have clear : (always (obstacle? r)).Yields c (.ok none) c :=
    .always (obstacle_of_reaches reaches)
  have asked : (always (exchange r)).Yields c (.ok (c.daemon.reply r).1) (exchange r c).2 :=
    .always (exchange_yields c r)
  let ask : Asking Content := always (exchange r) >>= contentOf r
  have first : ((get r).run c).1.result = (ask.run c).1.result ∧
      ((get r).run c).2 = (ask.run c).2 := clear.bind_eq
  have second : (ask.run c).1.result = ((contentOf r _).run _).1.result ∧
      (ask.run c).2 = ((contentOf r _).run _).2 := asked.bind_eq
  have same : (exchange r c).2 = ((contentOf r (c.daemon.reply r).1).run (exchange r c).2).2 :=
    contentOf_goes eq_lasting r _ _
  exact ⟨first.1.trans second.1, first.2.trans (second.2.trans same.symm)⟩

/-- A request is made if it can be made, whatever the client makes of the reply. -/
theorem get_connection (r : Request) (c : Connection) :
    ((get r).run c).2 = if Reaches c r then (exchange r c).2 else c := by
  split
  · next reaches => exact (get_of_reaches reaches).2
  · next blocked =>
    obtain ⟨fault, yields⟩ := get_of_not_reaches blocked
    exact yields.2

theorem exchange_extends (c : Connection) (r : Request) : c.Extends (exchange r c).2 :=
  ⟨rfl, List.suffix_cons r c.asked⟩

theorem get_extends (r : Request) : (get r).run.Goes Connection.Extends := by
  intro c
  rw [get_connection]
  split
  · exact exchange_extends c r
  · exact Connection.extends_lasting.refl c

/-- To look at a container is one request. -/
theorem inspect_connection (name : String) (c : Connection) :
    ((inspect name).run c).2 = ((get (.inspect name)).run c).2 := by
  refine Asking.bind_connection fun content => ?_
  refine Asking.goes_bind eq_lasting (collect_goes eq_lasting _) fun bs => ?_
  split
  · exact Asking.goes_pure eq_lasting _
  · exact Asking.goes_throw eq_lasting _

theorem inspect_extends (name : String) : (inspect name).run.Goes Connection.Extends := by
  intro c
  rw [inspect_connection]
  exact get_extends _ c

/-- To ask whether a container has ever run is one request, or none if it cannot be made. -/
theorem hasStarted_connection (name : String) (c : Connection) :
    ((hasStarted name).run c).2 =
      if Reaches c (.inspect name) then (exchange (.inspect name) c).2 else c := by
  rw [← get_connection, ← inspect_connection]
  exact Asking.bind_connection fun _ => Asking.goes_pure eq_lasting _

theorem openLog_extends (name : String) (options : StreamOptions) :
    (openLog name options).run.Goes Connection.Extends :=
  Asking.goes_bind Connection.extends_lasting (inspect_extends name) fun _ =>
    Asking.goes_bind Connection.extends_lasting (get_extends _) fun _ =>
      Asking.goes_pure Connection.extends_lasting _

theorem inspectWhile_extends (name : String) (wanted : Phase → Bool) (fuel : Nat) (w : Watch) :
    (inspectWhile name wanted fuel w).Goes Connection.Extends := by
  induction fuel generalizing w with
  | zero => exact .result Connection.extends_lasting w
  | succ fuel ih =>
    unfold inspectWhile
    split
    · exact .bind Connection.extends_lasting (inspect_extends name) fun _ => ih _
    · exact .result Connection.extends_lasting w

theorem listen_extends (name : String) (wanted : Phase → Bool) (pieces : List Piece) (w : Watch) :
    (listen name wanted pieces w).Goes Connection.Extends := by
  induction pieces generalizing w with
  | nil => exact .result Connection.extends_lasting w
  | cons piece rest ih =>
    unfold listen
    split
    · exact .bind Connection.extends_lasting (inspectWhile_extends name wanted _ _) ih
    · exact .result Connection.extends_lasting w

theorem finish_extends (wanted : Phase → Bool) (content : Content) (w : Watch) :
    (finish wanted content w).Goes Connection.Extends := by
  unfold finish
  split
  · exact .result Connection.extends_lasting _
  · exact .result Connection.extends_lasting _
  · exact .bind Connection.extends_lasting Connection.extends_lasting.refl fun _ =>
      Connection.extends_lasting.refl
  · exact .result Connection.extends_lasting _

theorem watch_extends (name : String) (wanted : Phase → Bool) :
    (watch name wanted).Goes Connection.Extends := by
  refine .bind Connection.extends_lasting (get_extends _) ?_
  rintro (fault | content)
  · exact .result Connection.extends_lasting _
  · refine .bind Connection.extends_lasting (inspectWhile_extends name wanted _ _) fun w => ?_
    refine .bind Connection.extends_lasting (listen_extends name wanted _ w) fun w => ?_
    refine .bind Connection.extends_lasting (finish_extends wanted content w) fun w => ?_
    split
    · exact .result Connection.extends_lasting _
    · exact Connection.extends_lasting.refl

end Client

/-! ## The requests of a run -/

section Runs

variable {σ : Type} {R : σ → σ → Prop} {p : Plan σ} {w₀ w : World σ}

/-- What holds of a backend from call to call holds of it from the start of a run. -/
theorem World.Reachable.backend_goes (lasting : Lasting R)
    (opens : ∀ s service options, R s (p.backend.openStream s service options).2)
    (awaits : ∀ s service, R s (p.backend.awaitRunning s service).2)
    (reach : Reachable p w₀ w) : R w₀.backend w.backend := by
  induction reach with
  | start => exact lasting.refl _
  | step before step ih =>
    refine lasting.trans ih ?_
    cases step with
    | userCancels | timePasses => exact lasting.refl _
    | printer _ move =>
      obtain ⟨event, -, rfl⟩ := Option.map_eq_some_iff.1 move
      exact lasting.refl _
    | follower _ at_i move =>
      rcases backend_of_mem move with same | ⟨-, opened⟩ | ⟨-, awaited⟩
      · rw [same]
        exact lasting.refl _
      · rw [opened]
        exact opens _ _ _
      · rw [awaited]
        exact awaits _ _

/-- A run makes its requests after those that were made before it. -/
theorem Plan.run_extends {p : Plan Connection} (client : p.backend = Client.backend)
    (c : Connection) (printer : Printer) (cancelAt : Option Nat) (horizon : Nat) :
    c.Extends (p.run c printer cancelAt horizon).2 := by
  unfold Plan.run
  split
  · exact Connection.extends_lasting.refl c
  split
  · exact Connection.extends_lasting.refl c
  · have reach : World.Reachable p (World.start p c printer)
        ((World.start p c printer).run p cancelAt horizon) := World.reachable_runFor _ _
    refine reach.backend_goes Connection.extends_lasting ?_ ?_
    · intro s service options
      rw [client]
      exact Client.openLog_extends service options s
    · intro s service
      rw [client]
      exact Client.watch_extends service _ s

end Runs

end Chronicle
