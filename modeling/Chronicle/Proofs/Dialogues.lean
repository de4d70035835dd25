import Chronicle.Docker.Client
/-!
# What dialogues yield

A dialogue is run on a connection and leaves another. `Dialogue.Yields` says what it ends with,
so that a dialogue of several parts is followed part by part. In this way the client is followed
from the answers of a daemon to what it makes of them: `Client.phase_of_reports` is the last of
these steps, the phase of a container.
-/

namespace Chronicle

/-- A dialogue ends with this value and leaves this connection. -/
def Dialogue.Yields {α : Type} (m : Dialogue α) (c : Connection) (a : α) (c' : Connection) :
    Prop :=
  (m c).1.result = some a ∧ (m c).2 = c'

/-- The same of one that may fail. -/
def Asking.Yields {α : Type} (m : Asking α) (c : Connection) (r : Except Fault α)
    (c' : Connection) : Prop :=
  Dialogue.Yields m.run c r c'

section Rules

variable {α β : Type} {c c' c'' : Connection}

theorem Dialogue.Yields.unique {m : Dialogue α} {a b : α} (one : m.Yields c a c')
    (other : m.Yields c b c'') : a = b :=
  Option.some.inj (one.1.symm.trans other.1)

theorem Dialogue.Yields.bind {m : Dialogue α} {f : α → Dialogue β} {a : α} {b : β}
    (first : m.Yields c a c') (second : (f a).Yields c' b c'') : (m >>= f).Yields c b c'' := by
  obtain ⟨result, rfl⟩ := first
  obtain ⟨result', rfl⟩ := second
  show (andThen m f c).1.result = _ ∧ (andThen m f c).2 = _
  simp [andThen, result, result']

theorem Dialogue.Yields.of_bind {m : Dialogue α} {f : α → Dialogue β} {b : β}
    (h : (m >>= f).Yields c b c'') : ∃ a c', m.Yields c a c' ∧ (f a).Yields c' b c'' := by
  have h : (andThen m f c).1.result = some b ∧ (andThen m f c).2 = c'' := h
  unfold andThen at h
  cases first : (m c).1.result with
  | none => simp [first] at h
  | some a =>
    simp only [first] at h
    exact ⟨a, _, ⟨first, rfl⟩, h⟩

namespace Asking.Yields

variable {m : Asking α} {f : α → Asking β}

/-- What comes of two parts without a fault comes of each without one. -/
theorem of_bind {b : β} (h : (m >>= f).Yields c (.ok b) c'') :
    ∃ a c', m.Yields c (.ok a) c' ∧ (f a).Yields c' (.ok b) c'' := by
  obtain ⟨r, c', first, second⟩ := Dialogue.Yields.of_bind h
  cases r with
  | ok a => exact ⟨a, c', first, second⟩
  | error fault => cases second.1

theorem of_pure {a b : α} (h : (Pure.pure a : Asking α).Yields c (.ok b) c') : b = a :=
  (Except.ok.inj (Option.some.inj h.1)).symm

theorem bind {a : α} {r : Except Fault β} (first : m.Yields c (.ok a) c')
    (second : (f a).Yields c' r c'') : (m >>= f).Yields c r c'' :=
  Dialogue.Yields.bind first second

theorem bind_error {fault : Fault} (first : m.Yields c (.error fault) c') :
    (m >>= f).Yields c (.error fault) c' :=
  Dialogue.Yields.bind first ⟨rfl, rfl⟩

theorem pure (a : α) : (Pure.pure a : Asking α).Yields c (.ok a) c := ⟨rfl, rfl⟩

theorem throw (fault : Fault) : (MonadExcept.throw fault : Asking α).Yields c (.error fault) c :=
  ⟨rfl, rfl⟩

theorem always {m : Dialogue α} {a : α} (yields : m.Yields c a c') :
    (Client.always m).Yields c (.ok a) c' :=
  Dialogue.Yields.bind yields ⟨rfl, rfl⟩

end Asking.Yields

end Rules

/-! ## What the daemon reports -/

/-- The phase of a container with this status. Without one there is no such container. -/
def Phase.reported : Option String → Phase
  | none => .missing
  | some status => .ofStatus status

/-- An answer to an inspection says that the container has this status. -/
inductive Answer.Reports : Answer → Option String → Prop where
  | unknown {r : Response} (missing : r.status = 404) : Reports (.response r) none
  | known {r : Response} {bs : List UInt8} {container : Container} (success : r.isSuccess = true)
      (whole : r.body.collect = some (.ok bs)) (reads : Container.read bs = .ok container) :
      Reports (.response r) (some container.status)

/-- A request about the container is answered with this status. -/
structure Connection.Reports (c : Connection) (name : String) (status : Option String) :
    Prop where
  clear : c.obstacle = none
  short : (Request.inspect name).pathChars.length ≤ Request.maxPath
  answers : (c.daemon.reply (.inspect name)).1.answer.Reports status

/-- What a daemon says of a container with this status. -/
def Container.report (status : String) : List UInt8 :=
  Utf8.encode ("\x7b\"State\":\x7b\"Status\":\"" ++ status ++ "\"\x7d\x7d").toList

/-- The reply that says so. -/
def Reply.telling (status : String) : Reply where
  answer := .response { status := 200, body := .ofBytes (Container.report status) 0 }

/-! ## What a client gets -/

namespace Client

variable {c c' : Connection} {name : String} {status : Option String} {r : Request}
  {response : Response}

/-- The answer to a request that can be made. -/
structure Answers (c : Connection) (r : Request) (response : Response) : Prop where
  clear : c.obstacle = none
  short : r.pathChars.length ≤ Request.maxPath
  answer : (c.daemon.reply r).1.answer = .response response

theorem obstacle_yields (answers : Answers c r response) : (obstacle? r).Yields c none c := by
  have := answers.short
  simp [Dialogue.Yields, obstacle?, answers.clear]
  omega

theorem exchange_yields (c : Connection) (r : Request) :
    (exchange r).Yields c (c.daemon.reply r).1 (exchange r c).2 := ⟨rfl, rfl⟩

theorem get_of_success (answers : Answers c r response) (success : response.isSuccess = true) :
    (get r).Yields c (.ok { body := response.body, atEnd := (c.daemon.reply r).1.atEnd })
      (exchange r c).2 := by
  refine .bind (.always (obstacle_yields answers)) (.bind (.always (exchange_yields c r)) ?_)
  simp only [answers.answer, success, if_true]
  exact .pure _

theorem get_of_missing (answers : Answers c r response) (missing : response.status = 404) :
    (get r).Yields c (.error (.notFound r.name)) (exchange r c).2 := by
  have fails : response.isSuccess = false := by simp [Response.isSuccess, missing]
  refine .bind (.always (obstacle_yields answers)) (.bind (.always (exchange_yields c r)) ?_)
  simp only [answers.answer, fails, missing, Bool.false_eq_true, if_false, if_true]
  exact .bind_error (.throw _)

theorem inspect_of_success {bs : List UInt8} {container : Container}
    (answers : Answers c (.inspect name) response) (success : response.isSuccess = true)
    (whole : response.body.collect = some (.ok bs)) (reads : Container.read bs = .ok container) :
    (inspect name).Yields c (.ok container) (exchange (.inspect name) c).2 := by
  refine .bind (get_of_success answers success) ?_
  simp only [collect, whole]
  refine .bind (.pure bs) ?_
  simp only [reads]
  exact .pure _

theorem phase_yields (r : Except Fault Container) : (inspect name).Yields c r c' →
    (phase name).Yields c (match r with
      | .ok container => .ok container.phase
      | .error (.notFound _) => .ok .missing
      | .error fault => .error fault) c' := by
  rintro ⟨result, rfl⟩
  refine ⟨?_, rfl⟩
  show ((inspect name).run c).1.result.map _ = _
  rw [result]
  rfl

/-- The client makes of a status the phase that is reported with it. -/
theorem phase_of_reports (reports : c.Reports name status) :
    ∃ c', (phase name).Yields c (.ok (Phase.reported status)) c' := by
  obtain ⟨clear, short, answers⟩ := reports
  generalize answer : (c.daemon.reply (.inspect name)).1.answer = a at answers
  cases answers with
  | unknown missing =>
    have asked : (inspect name).Yields c (.error (.notFound name)) _ :=
      .bind_error (get_of_missing ⟨clear, short, answer⟩ missing)
    exact ⟨_, phase_yields _ asked⟩
  | known success whole reads =>
    exact ⟨_, phase_yields _ (inspect_of_success ⟨clear, short, answer⟩ success whole reads)⟩

end Client

end Chronicle
