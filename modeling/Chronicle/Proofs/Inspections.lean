import Chronicle.Proofs.Requests
import Chronicle.Proofs.Streams
/-!
# Inspections of a watch

A watch looks at its container once when it is subscribed and once more for each event, an event
being a line of what the daemon sends. `Client.inspectUpTo` says that much as a loop over the number
of events, and `Client.attend_eq` that a subscribed watch does nothing else, however the events are
cut into pieces. What comes of it is told by the inspections that were made, one after the other:
`Client.inspects_at_each_event`.
-/

namespace Chronicle

/-! ## Dialogues one after the other -/

namespace Dialogue

variable {α β γ : Type} {m : Dialogue α} {f : α → Dialogue β}

theorem result_bind (a : α) (f : α → Dialogue β) : (result a >>= f) = f a := by
  funext c
  show andThen (result a) f c = f a c
  simp [andThen, result]

theorem bind_assoc (m : Dialogue α) (f : α → Dialogue β) (g : β → Dialogue γ) :
    (m >>= f >>= g) = m >>= fun a => f a >>= g := by
  funext c
  show andThen (andThen m f) g c = andThen m (fun a => andThen (f a) g) c
  cases first : (m c).1.result with
  | none => simp [andThen, first]
  | some a =>
    cases second : (f a (m c).2).1.result with
    | none => simp [andThen, first, second]
    | some b => simp [andThen, first, second, List.append_assoc]

theorem yields_bind_iff {c c₁ c' : Connection} {a : α} {b : β} (first : m.Yields c a c₁) :
    (m >>= f).Yields c b c' ↔ (f a).Yields c₁ b c' := by
  obtain ⟨result, rfl⟩ := first
  obtain ⟨same, left⟩ := andThen_some f result
  show (andThen m f c).1.result = some b ∧ (andThen m f c).2 = c' ↔ _
  rw [same, left]
  rfl

theorem yields_unlessCancelled_iff {c c' : Connection} {a : α} :
    m.unlessCancelled.Yields c a c' ↔ m.Yields c a c' ∧ .cancel ∉ (m c).1.delays := by
  by_cases cancelled : .cancel ∈ (m c).1.delays <;> simp [Yields, unlessCancelled, cancelled]

end Dialogue

/-! ## A watch between two events -/

namespace Watch

variable {w : Watch} {line rest : List UInt8}

theorem proceed_of_event (whole : newline ∉ line)
    (held : w.lines.held = line ++ newline :: rest) :
    w.proceed = { stage := .inspecting, lines := ⟨rest⟩ } := by
  simp [proceed, Splitter.next?, held, cutAtNewline_of_line whole]

theorem proceed_of_tail (unended : newline ∉ w.lines.held) :
    w.proceed = { w with stage := .listening } := by
  simp [proceed, Splitter.next?, cutAtNewline_of_tail unended]

/-- What comes of a watch after its last inspection, when so many events have not been looked at: a
fault or a wanted phase ends it at once, and else it goes on to the end of the events. -/
inductive Concludes (wanted : Phase → Bool) (ending : Ending) :
    Nat → Except Fault Phase → Except WatchFault Unit → Prop where
  | fails (left : Nat) (fault : Fault) : Concludes wanted ending left (.error fault)
      (.error (.failed fault))
  | finds (left : Nat) {phase : Phase} (satisfied : wanted phase = true) :
      Concludes wanted ending left (.ok phase) (.ok ())
  | closes {phase : Phase} (unsatisfied : wanted phase = false) (complete : ending = .complete) :
      Concludes wanted ending 0 (.ok phase) (.error .closed)
  | breaks {phase : Phase} (unsatisfied : wanted phase = false) (broken : ending = .broken) :
      Concludes wanted ending 0 (.ok phase) (.error (.failed .http))

end Watch

/-- The phase that an inspection finds. A container that does not exist is missing. -/
def Phase.found : Except Fault Container → Except Fault Phase
  | .ok container => .ok container.phase
  | .error (.notFound _) => .ok .missing
  | .error fault => .error fault

/-! ## How long paths are -/

namespace Percent

/-- How long a text is as part of a URL. -/
def width (cs : List Char) : Nat := ((Utf8.encode cs).flatMap encodeByte).length

theorem length_encode (s : String) : (encode s).length = width s.toList := rfl

theorem width_append (cs ds : List Char) : width (cs ++ ds) = width cs + width ds := by
  simp [width, Utf8.encode_append]

theorem width_ascii {c : Char} (ascii : c.toNat < 128) : width [c] ≤ 3 := by
  have small : c.toNat ≤ 127 := Nat.le_of_lt_succ ascii
  have one : Utf8.encode [c] = [UInt8.ofNat c.toNat] := by
    simp [Utf8.encode, String.utf8EncodeChar, small]
  rw [width, one, List.flatMap_singleton, encodeByte]
  split <;> simp

/-- An escape is no shorter than what it stands for. -/
theorem width_escape (c : Char) : width [c] ≤ width (Json.escape c) := by
  unfold Json.escape
  split
  case h_8 =>
    split
    · next control =>
      have slash : width ['\\'] = 3 := by decide
      calc width [c] ≤ width ['\\'] := slash ▸ width_ascii (Nat.lt_trans control (by decide))
        _ ≤ width (['\\'] ++ _) := width_append .. ▸ Nat.le_add_right ..
    · exact Nat.le_refl _
  all_goals decide

theorem width_escapes (cs : List Char) : width cs ≤ width (cs.flatMap Json.escape) := by
  induction cs with
  | nil => exact Nat.le_refl _
  | cons c cs ih =>
    rw [List.flatMap_cons, width_append, ← List.singleton_append, width_append]
    exact Nat.add_le_add (width_escape c) ih

end Percent

theorem Json.width_quote (s : String) :
    Percent.width (quote s) = 6 + Percent.width (s.toList.flatMap escape) := by
  have mark : Percent.width ['"'] = 3 := by decide
  rw [quote, Percent.width_append, ← List.singleton_append, Percent.width_append, mark]
  exact Nat.add_right_comm 3 _ 3

namespace Request

theorem length_path_inspect (name : String) :
    (inspect name).pathChars.length = 17 + Percent.width name.toList := by
  have start : "/containers/".toList.length = 12 := by decide
  have stop : "/json".toList.length = 5 := by decide
  unfold pathChars containerPath
  rw [List.length_append, List.length_append, Percent.length_encode, start, stop]
  omega

theorem length_path_events (name : String) :
    (events name).pathChars.length = 16 + Percent.width (filter name) := by
  have start : "/events?filters=".toList.length = 16 := by decide
  unfold pathChars
  rw [List.length_append, start, Percent.length_encode, String.toList_ofList]

/-- Where the events of a container can be asked for, its phase can be asked for too. -/
theorem length_path_inspect_le (name : String) :
    (inspect name).pathChars.length ≤ (events name).pathChars.length := by
  have quoted : Percent.width (Json.quote name) ≤ Percent.width (filter name) := by
    unfold filter
    rw [Percent.width_append (_ ++ Json.quote name), Percent.width_append _ (Json.quote name)]
    exact Nat.le_trans (Nat.le_add_left _ _) (Nat.le_add_right _ _)
  have escapes := Percent.width_escapes name.toList
  rw [Json.width_quote] at quoted
  rw [length_path_inspect, length_path_events]
  omega

end Request

namespace Client

variable {name : String} {wanted : Phase → Bool} {events : Content} {c c₁ c' : Connection}
  {finding : Except Fault Phase} {findings : List (Except Fault Phase)} {w : Watch}
  {pieces : List Piece} {r : Request} {result : Except WatchFault Unit}
  {last : Dialogue (Except WatchFault Unit)}

/-- One inspection that the user does not cancel, what it finds, and the connection after it. -/
inductive Looks (name : String) (c : Connection) : Except Fault Phase → Connection → Prop where
  | looks {r : Except Fault Container} {c' : Connection} (answered : (inspect name).Yields c r c')
      (calm : .cancel ∉ ((inspect name).run c).1.delays) : Looks name c (Phase.found r) c'

/-- Inspections one after the other, what they find, and the connection after them. -/
inductive Inspects (name : String) :
    Connection → List (Except Fault Phase) → Connection → Prop where
  | none (c : Connection) : Inspects name c [] c
  | next {c c' c'' : Connection} {finding : Except Fault Phase}
      {findings : List (Except Fault Phase)} (first : Looks name c finding c')
      (more : Inspects name c' findings c'') : Inspects name c (finding :: findings) c''

/-! ## The loop over the events -/

/-- The phase of a container, unless the user cancels meanwhile. -/
def look (name : String) : Dialogue (Except Fault Phase) := (phase name).run.unlessCancelled

/-- Looks at the phase at most so many times, until it is wanted, and then goes to the last part. -/
def inspectUpTo (name : String) (wanted : Phase → Bool) (last : Dialogue (Except WatchFault Unit)) :
    Nat → Dialogue (Except WatchFault Unit)
  | 0 => last
  | n + 1 => look name >>= fun
    | .error fault => .result (.error (.failed fault))
    | .ok phase => if wanted phase then .result (.ok ()) else inspectUpTo name wanted last n

/-- What comes at the end of the events. -/
def conclusion (events : Content) : Dialogue (Except WatchFault Unit) :=
  match events.body.ending with
  | .complete => .result (.error .closed)
  | .broken => .result (.error (.failed .http))
  | .silent => Dialogue.wait events.atEnd >>= fun _ => .never

/-- What a watch does with its events once there are no more pieces of them. -/
def wrapUp (wanted : Phase → Bool) (events : Content) (w : Watch) :
    Dialogue (Except WatchFault Unit) :=
  finish wanted events w >>= fun w => match w.result? with
    | some result => .result result
    | none => .never

/-- What a watch does with the pieces of its events that are still to come. -/
def hearOut (name : String) (wanted : Phase → Bool) (events : Content) (pieces : List Piece)
    (w : Watch) : Dialogue (Except WatchFault Unit) :=
  listen name wanted pieces w >>= wrapUp wanted events

/-- What a watch does once it is subscribed. -/
def attend (name : String) (wanted : Phase → Bool) (events : Content) :
    Dialogue (Except WatchFault Unit) :=
  inspectAll name wanted { stage := .inspecting } >>= hearOut name wanted events events.body.pieces

theorem watch_eq (name : String) (wanted : Phase → Bool) :
    watch name wanted = (get (.events name)).run.unlessCancelled >>= fun
      | .error fault => .result (.error (.failed fault))
      | .ok events => attend name wanted events := rfl

/-! ## What the parts of a watch do -/

theorem inspectWhile_of_other {fuel : Nat} (other : w.stage ≠ .inspecting) :
    inspectWhile name wanted fuel w = .result w := by
  cases fuel with
  | zero => rfl
  | succ fuel =>
    unfold inspectWhile
    split
    · contradiction
    · rfl

theorem hearOut_of_finished (done : w.stage = .finished result) (pieces : List Piece) :
    hearOut name wanted events pieces w = .result result := by
  have stays : listen name wanted pieces w = .result w := by
    cases pieces <;> simp [listen, done]
  have wraps : finish wanted events w = .result w := by simp [finish, done]
  rw [hearOut, stays, Dialogue.result_bind, wrapUp, wraps, Dialogue.result_bind]
  simp [Watch.result?, done]

theorem wrapUp_of_listening (listens : w.stage = .listening) :
    wrapUp wanted events w = conclusion events := by
  unfold wrapUp finish conclusion
  cases ending : events.body.ending <;> simp only [listens]
  · rw [Dialogue.result_bind]
    simp [Watch.handle, listens, Watch.result?]
  · rw [Dialogue.result_bind]
    simp [Watch.handle, listens, Watch.fail, Watch.result?]
  · rw [Dialogue.bind_assoc]
    rfl

/-- A watch that holds whole events inspects once more for each of them, and then goes on like a
watch that listens. The fuel is enough, since each inspection after the first uses up an event. -/
theorem inspectWhile_bind {rest : Watch → Dialogue (Except WatchFault Unit)} {coming fuel : Nat}
    (ends : ∀ w result, w.stage = .finished result → rest w = .result result)
    (listens : ∀ w, w.stage = .listening → newline ∉ w.lines.held →
      rest w = inspectUpTo name wanted last coming)
    (asks : w.stage = .inspecting) (enough : w.lines.held.count newline < fuel) :
    inspectWhile name wanted fuel w >>= rest =
      inspectUpTo name wanted last (w.lines.held.count newline + coming + 1) := by
  induction fuel generalizing w with
  | zero => omega
  | succ fuel ih =>
    have step : inspectWhile name wanted (fuel + 1) w = look name >>= fun phase =>
        inspectWhile name wanted fuel (w.handle wanted (.inspected phase)) := by
      simp [inspectWhile, asks, look]
    rw [step, Dialogue.bind_assoc, inspectUpTo]
    congr 1
    funext found
    cases found with
    | error fault =>
      have failed : (w.handle wanted (.inspected (.error fault))).stage =
          .finished (.error (.failed fault)) := by
        simp [Watch.handle, asks, Watch.fail]
      rw [inspectWhile_of_other (by simp [failed]), Dialogue.result_bind, ends _ _ failed]
    | ok phase =>
      cases satisfied : wanted phase with
      | true =>
        have done : (w.handle wanted (.inspected (.ok phase))).stage = .finished (.ok ()) := by
          simp [Watch.handle, asks, satisfied]
        rw [inspectWhile_of_other (by simp [done]), Dialogue.result_bind, ends _ _ done]
        simp [satisfied]
      | false =>
        have goes_on : w.handle wanted (.inspected (.ok phase)) = w.proceed := by
          simp [Watch.handle, asks, satisfied]
        simp only [goes_on, satisfied, Bool.false_eq_true, if_false]
        rcases exists_line w.lines.held with unended | ⟨line, left, held, whole⟩
        · rw [Watch.proceed_of_tail unended, inspectWhile_of_other (by simp),
            Dialogue.result_bind, listens { w with stage := .listening } rfl unended,
            List.count_eq_zero.2 unended, Nat.zero_add]
        · have one_less : w.lines.held.count newline = left.count newline + 1 := by
            rw [held, List.count_append, List.count_eq_zero.2 whole, List.count_cons_self,
              Nat.zero_add]
          have enough : left.count newline < fuel := by omega
          rw [Watch.proceed_of_event whole held, ih rfl enough, one_less]
          congr 1
          simp only
          omega

/-- A watch that listens and holds no whole event inspects once for each event that comes. -/
theorem hearOut_of_listening (listens : w.stage = .listening) (unended : newline ∉ w.lines.held) :
    hearOut name wanted events pieces w =
      inspectUpTo name wanted (conclusion events) ((content pieces).count newline) := by
  induction pieces generalizing w with
  | nil =>
    rw [hearOut, listen, Dialogue.result_bind, wrapUp_of_listening listens]
    rfl
  | cons piece pieces ih =>
    have step : hearOut name wanted events (piece :: pieces) w =
        inspectAll name wanted (w.handle wanted (.heard piece)) >>=
          hearOut name wanted events pieces := by
      have first : listen name wanted (piece :: pieces) w =
          inspectAll name wanted (w.handle wanted (.heard piece)) >>=
            listen name wanted pieces := by
        simp [listen, listens]
      rw [hearOut, first, Dialogue.bind_assoc]
      rfl
    rw [step]
    cases piece with
    | trailer =>
      have same : w.handle wanted (.heard .trailer) = w := by simp [Watch.handle, listens]
      rw [same, inspectAll, inspectWhile_of_other (by simp [listens]), Dialogue.result_bind,
        ih listens unended, content_trailer]
    | data bs =>
      have hears : w.handle wanted (.heard (.data bs)) =
          ({ w with lines := w.lines.push bs } : Watch).proceed := by
        simp [Watch.handle, listens]
      -- What is held has no newline in it, so the events that are whole now came with this piece.
      have held : (w.lines.push bs).held.count newline = bs.count newline := by
        simp [Splitter.push, List.count_append, List.count_eq_zero.2 unended]
      rw [hears, content_data, List.count_append, ← held]
      rcases exists_line (w.lines.push bs).held with unended' | ⟨line, left, joined, whole⟩
      · rw [Watch.proceed_of_tail unended', inspectAll, inspectWhile_of_other (by simp),
          Dialogue.result_bind, ih rfl unended', List.count_eq_zero.2 unended', Nat.zero_add]
      · rw [Watch.proceed_of_event whole joined, inspectAll,
          inspectWhile_bind (fun w _ done => hearOut_of_finished done pieces)
            (fun w listens unended => ih listens unended) rfl
            (Nat.lt_succ_of_le List.count_le_length),
          joined, List.count_append, List.count_eq_zero.2 whole, List.count_cons_self]
        congr 1
        simp only
        omega

/-- A subscribed watch inspects once, and then once for each event. -/
theorem attend_eq (name : String) (wanted : Phase → Bool) (events : Content) :
    attend name wanted events = inspectUpTo name wanted (conclusion events)
      ((content events.body.pieces).count newline + 1) := by
  rw [attend, inspectAll,
    inspectWhile_bind (fun w _ done => hearOut_of_finished done events.body.pieces)
      (fun w listens unended => hearOut_of_listening listens unended) rfl (by simp)]
  simp

/-! ## The inspections that are made -/

theorem look_yields_iff : (look name).Yields c finding c' ↔ Looks name c finding c' := by
  rw [look, Dialogue.yields_unlessCancelled_iff]
  constructor
  · rintro ⟨⟨result, rfl⟩, calm⟩
    obtain ⟨r, answered, rfl⟩ := Option.map_eq_some_iff.1 result
    exact .looks ⟨answered, rfl⟩ calm
  · rintro ⟨answered, calm⟩
    exact ⟨phase_yields _ answered, calm⟩

theorem result_yields_iff {α : Type} {a b : α} :
    (Dialogue.result a).Yields c b c' ↔ a = b ∧ c = c' := by
  simp [Dialogue.Yields, Dialogue.result]

/-- At the end of the events the last inspection has not found a wanted phase. -/
theorem conclusion_yields_iff {phase : Phase} (unsatisfied : wanted phase = false) :
    (conclusion events).Yields c result c' ↔
      Watch.Concludes wanted events.body.ending 0 (.ok phase) result ∧ c = c' := by
  unfold conclusion
  cases ending : events.body.ending with
  | complete =>
    rw [result_yields_iff]
    constructor
    · rintro ⟨rfl, rfl⟩
      exact ⟨.closes unsatisfied rfl, rfl⟩
    · rintro ⟨concludes, rfl⟩
      cases concludes <;> simp_all
  | broken =>
    rw [result_yields_iff]
    constructor
    · rintro ⟨rfl, rfl⟩
      exact ⟨.breaks unsatisfied rfl, rfl⟩
    · rintro ⟨concludes, rfl⟩
      cases concludes <;> simp_all
  | silent =>
    constructor
    · intro yields
      obtain ⟨_, _, -, none, -⟩ := Dialogue.Yields.of_bind yields
      cases none
    · rintro ⟨concludes, -⟩
      cases concludes <;> simp_all

/-- The first inspection of the loop ends it, or the loop goes on. -/
theorem inspectUpTo_succ_yields_iff {n : Nat} :
    (inspectUpTo name wanted last (n + 1)).Yields c result c' ↔
      ∃ finding d, Looks name c finding d ∧
        ((∃ fault, finding = .error fault ∧ result = .error (.failed fault) ∧ d = c') ∨
        (∃ phase, finding = .ok phase ∧ wanted phase = true ∧ result = .ok () ∧ d = c') ∨
        ∃ phase, finding = .ok phase ∧ wanted phase = false ∧
          (inspectUpTo name wanted last n).Yields d result c') := by
  constructor
  · intro yields
    obtain ⟨finding, d, looks, decides⟩ := Dialogue.Yields.of_bind yields
    refine ⟨finding, d, look_yields_iff.1 looks, ?_⟩
    cases finding with
    | error fault =>
      obtain ⟨rfl, rfl⟩ := result_yields_iff.1 decides
      exact .inl ⟨fault, rfl, rfl, rfl⟩
    | ok phase =>
      cases satisfied : wanted phase with
      | true =>
        simp only [satisfied, if_true] at decides
        obtain ⟨rfl, rfl⟩ := result_yields_iff.1 decides
        exact .inr (.inl ⟨phase, rfl, satisfied, rfl, rfl⟩)
      | false =>
        simp only [satisfied, Bool.false_eq_true, if_false] at decides
        exact .inr (.inr ⟨phase, rfl, satisfied, decides⟩)
  · rintro ⟨finding, d, looks, decides⟩
    refine Dialogue.Yields.bind (look_yields_iff.2 looks) ?_
    rcases decides with ⟨fault, rfl, rfl, rfl⟩ | ⟨phase, rfl, satisfied, rfl, rfl⟩ |
      ⟨phase, rfl, unsatisfied, more⟩
    · exact result_yields_iff.2 ⟨rfl, rfl⟩
    · simpa [satisfied] using result_yields_iff.2 ⟨rfl, rfl⟩
    · simpa [unsatisfied] using more

theorem inspections_of_yields {n : Nat}
    (yields : (inspectUpTo name wanted (conclusion events) (n + 1)).Yields c result c') :
    ∃ passed finding left, Inspects name c (passed ++ [finding]) c' ∧
      (∀ f ∈ passed, ∃ phase, f = .ok phase ∧ wanted phase = false) ∧
      passed.length + left = n ∧
      Watch.Concludes wanted events.body.ending left finding result := by
  induction n generalizing c with
  | zero =>
    obtain ⟨finding, d, looks, decides⟩ := inspectUpTo_succ_yields_iff.1 yields
    rcases decides with ⟨fault, rfl, rfl, rfl⟩ | ⟨phase, rfl, satisfied, rfl, rfl⟩ |
      ⟨phase, rfl, unsatisfied, ends⟩
    · exact ⟨[], _, 0, .next looks (.none _), by simp, rfl, .fails 0 fault⟩
    · exact ⟨[], _, 0, .next looks (.none _), by simp, rfl, .finds 0 satisfied⟩
    · obtain ⟨concludes, rfl⟩ := (conclusion_yields_iff unsatisfied).1 ends
      exact ⟨[], _, 0, .next looks (.none _), by simp, rfl, concludes⟩
  | succ n ih =>
    obtain ⟨finding, d, looks, decides⟩ := inspectUpTo_succ_yields_iff.1 yields
    rcases decides with ⟨fault, rfl, rfl, rfl⟩ | ⟨phase, rfl, satisfied, rfl, rfl⟩ |
      ⟨phase, rfl, unsatisfied, more⟩
    · exact ⟨[], _, n + 1, .next looks (.none _), by simp, Nat.zero_add _, .fails _ fault⟩
    · exact ⟨[], _, n + 1, .next looks (.none _), by simp, Nat.zero_add _, .finds _ satisfied⟩
    · obtain ⟨passed, finding, left, inspects, unwanted, total, concludes⟩ := ih more
      refine ⟨.ok phase :: passed, finding, left, .next looks inspects, ?_, ?_, concludes⟩
      · exact List.forall_mem_cons.2 ⟨⟨phase, rfl, unsatisfied⟩, unwanted⟩
      · rw [List.length_cons]
        omega

theorem yields_of_inspections {passed : List (Except Fault Phase)} {left : Nat}
    (inspects : Inspects name c (passed ++ [finding]) c')
    (unwanted : ∀ f ∈ passed, ∃ phase, f = .ok phase ∧ wanted phase = false)
    (concludes : Watch.Concludes wanted events.body.ending left finding result) :
    (inspectUpTo name wanted (conclusion events) (passed.length + left + 1)).Yields
      c result c' := by
  induction passed generalizing c with
  | nil =>
    cases inspects with | next looks none => ?_
    cases none
    refine inspectUpTo_succ_yields_iff.2 ⟨finding, _, looks, ?_⟩
    cases concludes with
    | fails _ fault => exact .inl ⟨fault, rfl, rfl, rfl⟩
    | finds _ satisfied => exact .inr (.inl ⟨_, rfl, satisfied, rfl, rfl⟩)
    | closes unsatisfied complete =>
      exact .inr (.inr ⟨_, rfl, unsatisfied,
        (conclusion_yields_iff unsatisfied).2 ⟨.closes unsatisfied complete, rfl⟩⟩)
    | breaks unsatisfied broken =>
      exact .inr (.inr ⟨_, rfl, unsatisfied,
        (conclusion_yields_iff unsatisfied).2 ⟨.breaks unsatisfied broken, rfl⟩⟩)
  | cons first passed ih =>
    cases inspects with | next looks more => ?_
    obtain ⟨⟨phase, rfl, unsatisfied⟩, others⟩ := List.forall_mem_cons.1 unwanted
    have later := ih more others
    rw [List.length_cons, Nat.add_right_comm passed.length 1 left]
    exact inspectUpTo_succ_yields_iff.2
      ⟨_, _, looks, .inr (.inr ⟨phase, rfl, unsatisfied, later⟩)⟩

/-! ## Requests -/

theorem reaches_of_get (yields : (get r).Yields c (.ok events) c') : Reaches c r := by
  by_contra blocked
  obtain ⟨fault, fails⟩ := get_of_not_reaches blocked
  cases fails.unique yields

/-- An inspection is one request. -/
theorem Looks.asked (looks : Looks name c finding c') (reaches : Reaches c (.inspect name)) :
    c'.asked = .inspect name :: c.asked ∧ Reaches c' (.inspect name) := by
  obtain ⟨answered, -⟩ := looks
  have moved : c' = (exchange (.inspect name) c).2 := by
    have := inspect_connection name c
    rw [get_connection, if_pos reaches] at this
    exact answered.2.symm.trans this
  rw [moved]
  exact ⟨asked_exchange _, (reaches_exchange _).2 reaches⟩

theorem Inspects.asked (inspects : Inspects name c findings c')
    (reaches : Reaches c (.inspect name)) :
    c'.asked = List.replicate findings.length (.inspect name) ++ c.asked := by
  induction inspects with
  | none => rfl
  | next first more ih =>
    obtain ⟨asked, reaches⟩ := first.asked reaches
    rw [ih reaches, asked, List.length_cons, List.replicate_succ', List.append_assoc]
    rfl

/-- A daemon that knows no such container lets an inspection find it missing. -/
theorem Looks.missing {response : Response} (looks : Looks name c finding c')
    (answers : Answers c (.inspect name) response) (missing : response.status = 404) :
    finding = .ok .missing := by
  obtain ⟨answered, -⟩ := looks
  have unknown : (inspect name).Yields c (.error (.notFound name)) _ :=
    .bind_error (get_of_missing answers missing)
  rw [answered.unique unknown]
  rfl

/-- A subscribed watch looks at its container once and then once for each event, one inspection
after the other, until one fails or finds a wanted phase or there are no more events. The last of
them, and how the events end, decide what comes of it. Each inspection is one request, and a
container that does not exist is found missing. How the events are cut into pieces makes no
difference. -/
theorem inspects_at_each_event (subscribed : (get (.events name)).Yields c (.ok events) c₁)
    (calm : .cancel ∉ ((get (.events name)).run c).1.delays) :
    ((watch name wanted).Yields c result c' ↔
      ∃ passed finding left, Inspects name c₁ (passed ++ [finding]) c' ∧
        (∀ f ∈ passed, ∃ phase, f = .ok phase ∧ wanted phase = false) ∧
        passed.length + left = (content events.body.pieces).count newline ∧
        Watch.Concludes wanted events.body.ending left finding result) ∧
    (∀ findings d, Inspects name c₁ findings d →
      d.asked = List.replicate findings.length (.inspect name) ++ .events name :: c.asked) ∧
    (∀ d d' finding response, Looks name d finding d' → Answers d (.inspect name) response →
      response.status = 404 → finding = .ok .missing) ∧
    ∀ pieces, content pieces = content events.body.pieces →
      attend name wanted { events with body := { events.body with pieces } } =
        attend name wanted events := by
  have reaches := reaches_of_get subscribed
  have moved : c₁ = (exchange (.events name) c).2 := by
    have := subscribed.2
    rw [get_connection, if_pos reaches] at this
    exact this.symm
  have watches : (watch name wanted).Yields c result c' ↔
      (attend name wanted events).Yields c₁ result c' := by
    rw [watch_eq]
    exact Dialogue.yields_bind_iff (Dialogue.yields_unlessCancelled_iff.2 ⟨subscribed, calm⟩)
  refine ⟨?_, ?_, fun _ _ _ _ looks answers missing => looks.missing answers missing, ?_⟩
  · rw [watches, attend_eq]
    constructor
    · exact inspections_of_yields
    · rintro ⟨passed, finding, left, inspects, unwanted, total, concludes⟩
      rw [← total]
      exact yields_of_inspections inspects unwanted concludes
  · intro findings d inspects
    have short := Nat.le_trans (Request.length_path_inspect_le name) reaches.2
    rw [inspects.asked (by rw [moved, reaches_exchange]; exact ⟨reaches.1, short⟩), moved,
      asked_exchange]
  · intro pieces same
    simp only [attend_eq, same]
    rfl

/-- A daemon whose container appears, stops and runs. There are three events in pieces that cut
through them, and part of a fourth. -/
def appearing : Connection where
  endpoint := .network "localhost:2375"
  daemon := {
    containers := [("web", { inspect := [.unknown, .telling "exited", .telling "running"] })]
    events := [{ answer := .response {
      status := 200
      body := { pieces := [.data [123], .data [125, 10, 123], .trailer, .data [125, 10, 10, 120]] }
    } }]
  }

/-- The third inspection finds that the container runs, so the last event is not looked at. -/
theorem appearing_is_inspected : ∃ events c₁ c',
    (get (.events "web")).Yields appearing (.ok events) c₁ ∧
    .cancel ∉ ((get (.events "web")).run appearing).1.delays ∧
    (content events.body.pieces).count newline = 3 ∧
    (watch "web" (· == .running)).Yields appearing (.ok ()) c' ∧
    c'.asked = [.inspect "web", .inspect "web", .inspect "web", .events "web"] := by
  have subscribed : (get (.events "web")).Yields appearing (.ok _) _ :=
    get_of_success ⟨rfl, by decide +kernel, rfl⟩ rfl
  have calm : .cancel ∉ ((get (.events "web")).run appearing).1.delays := by decide +kernel
  have looks (d : Connection) (r : Except Fault Container)
      (result : ((inspect "web").run d).1.result = some r)
      (calm : .cancel ∉ ((inspect "web").run d).1.delays) : Looks "web" d (Phase.found r) _ :=
    .looks ⟨result, rfl⟩ calm
  obtain ⟨c', inspects⟩ : ∃ c', Inspects "web" (exchange (.events "web") appearing).2
      [.ok .missing, .ok .exited, .ok .running] c' :=
    ⟨_, .next (looks _ (.error (.notFound "web")) (by decide +kernel) (by decide +kernel))
      (.next (looks _ (.ok { status := "exited" }) (by decide +kernel) (by decide +kernel))
        (.next (looks _ (.ok { status := "running" }) (by decide +kernel) (by decide +kernel))
          (.none _)))⟩
  obtain ⟨watches, requests, -⟩ :
      ((watch "web" (· == .running)).Yields appearing (.ok ()) c' ↔ _) ∧ _ :=
    inspects_at_each_event subscribed calm
  have unwanted : ∀ f ∈ [.ok .missing, (.ok .exited : Except Fault Phase)],
      ∃ phase, f = .ok phase ∧ (phase == .running) = false := by
    simp only [List.forall_mem_cons]
    exact ⟨⟨_, rfl, rfl⟩, ⟨_, rfl, rfl⟩, by simp⟩
  exact ⟨_, _, _, subscribed, calm, by decide,
    watches.2 ⟨_, _, 1, inspects, unwanted, by decide, .finds 1 rfl⟩, requests _ _ inspects⟩

end Client

end Chronicle
