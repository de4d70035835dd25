import Chronicle.Proofs.Courses
/-!
# Output that fails

A sink may take only so many bytes, or fail at some flush. `Sink.Limits` says where it comes to its
end, and what it accepts of texts that are written one after the other, each with a flush. The main
result is `Printer.leaves_a_clean_prefix`: a printer writes to such a sink what it would write to
one that never fails, up to where the sink ends; there it stops, and says that output has failed.
`Session.Run.is_cut_short` says the same of a printer with its queue.
-/

namespace Chronicle

namespace Sink

/-! ## Where a sink ends -/

/-- How many bytes a sink takes in all, and how many flushes work, if there is an end to them. -/
@[ext]
structure Limits where
  bytes : Option Nat
  flushes : Option Nat

/-- The limits of a sink, counted from its beginning. -/
def limits (s : Sink) : Limits where
  bytes := s.room.map (s.written.length + ·)
  flushes := if s.failsFlush then some (s.flushed.length + s.goodFlushes) else none

/-- The sink if it never failed. -/
def endless (s : Sink) : Sink := { s with room := none, failsFlush := false, goodFlushes := 0 }

namespace Limits

variable {l : Limits} {texts : List (List UInt8)}

/-- Output fails before all the texts are through. -/
def Reached (l : Limits) (texts : List (List UInt8)) : Prop :=
  (∃ k ∈ l.bytes, k < texts.flatten.length) ∨ ∃ n ∈ l.flushes, n < texts.length

instance (l : Limits) (texts : List (List UInt8)) : Decidable (l.Reached texts) :=
  inferInstanceAs (Decidable (_ ∨ _))

/-- The texts that are begun: those that are flushed, and the one whose flush fails. -/
def begun (l : Limits) (texts : List (List UInt8)) : List (List UInt8) :=
  match l.flushes with
  | none => texts
  | some n => texts.take (n + 1)

/-- What is accepted of the texts. -/
def accepted (l : Limits) (texts : List (List UInt8)) : List UInt8 :=
  match l.bytes with
  | none => (l.begun texts).flatten
  | some k => (l.begun texts).flatten.take k

theorem begun_of_le (h : ∀ n ∈ l.flushes, texts.length ≤ n + 1) : l.begun texts = texts := by
  unfold begun
  split
  · rfl
  · exact List.take_of_length_le (h _ ‹_›)

theorem accepted_of_begun (all : l.begun texts = texts)
    (room : ∀ k ∈ l.bytes, texts.flatten.length ≤ k) : l.accepted texts = texts.flatten := by
  unfold accepted
  rw [all]
  split
  · rfl
  · exact List.take_of_length_le (room _ ‹_›)

theorem accepted_of_not_reached (within : ¬ l.Reached texts) :
    l.accepted texts = texts.flatten := by
  rw [Reached, not_or] at within
  obtain ⟨bytes, flushes⟩ := within
  have begun : l.begun texts = texts := begun_of_le fun n limit =>
    Nat.le_succ_of_le (Nat.le_of_not_lt fun beyond => flushes ⟨n, limit, beyond⟩)
  exact accepted_of_begun begun fun k limit =>
    Nat.le_of_not_lt fun beyond => bytes ⟨k, limit, beyond⟩

theorem begun_append (h : ∀ n ∈ l.flushes, texts.length ≤ n) (more : List (List UInt8)) :
    ∃ rest, l.begun (texts ++ more) = texts ++ rest := by
  unfold begun
  split
  · exact ⟨more, rfl⟩
  · exact ⟨_, by rw [List.take_append, List.take_of_length_le (Nat.le_succ_of_le (h _ ‹_›))]⟩

theorem begun_prefix (l : Limits) (texts : List (List UInt8)) : l.begun texts <+: texts := by
  unfold begun
  split
  · exact List.prefix_refl _
  · exact List.take_prefix _ _

theorem accepted_prefix (l : Limits) (texts : List (List UInt8)) :
    l.accepted texts <+: texts.flatten := by
  have begun : (l.begun texts).flatten <+: texts.flatten := by
    obtain ⟨rest, split⟩ := l.begun_prefix texts
    exact ⟨rest.flatten, by rw [← List.flatten_append, split]⟩
  unfold accepted
  split
  · exact begun
  · exact (List.take_prefix _ _).trans begun

/-- Once a limit is reached, nothing more is accepted. -/
theorem accepted_append (reached : l.Reached texts) (more : List (List UInt8)) :
    l.accepted (texts ++ more) = l.accepted texts := by
  by_cases beyond : ∃ n ∈ l.flushes, n < texts.length
  · obtain ⟨n, limit, beyond⟩ := beyond
    have : l.begun (texts ++ more) = l.begun texts := by
      simp only [begun, Option.mem_def.1 limit]
      exact List.take_append_of_le_length beyond
    simp only [accepted, this]
  · have early : ∀ n ∈ l.flushes, texts.length ≤ n := fun n limit =>
      Nat.le_of_not_lt fun late => beyond ⟨n, limit, late⟩
    obtain ⟨k, limit, beyond⟩ := reached.resolve_right beyond
    have all : l.begun texts = texts :=
      begun_of_le fun n limit => Nat.le_succ_of_le (early n limit)
    obtain ⟨rest, begun⟩ := begun_append early more
    simp only [accepted, Option.mem_def.1 limit, all, begun, List.flatten_append]
    exact List.take_append_of_le_length (Nat.le_of_lt beyond)

theorem Reached.append (reached : l.Reached texts) (more : List (List UInt8)) :
    l.Reached (texts ++ more) := by
  refine reached.imp ?_ ?_
  · rintro ⟨k, limit, beyond⟩
    exact ⟨k, limit, by simpa using Nat.lt_add_right _ beyond⟩
  · rintro ⟨n, limit, beyond⟩
    exact ⟨n, limit, by simpa using Nat.lt_add_right _ beyond⟩

end Limits

variable {s : Sink}

theorem written_of_pending (pending : s.pending = []) : s.written = s.texts.flatten := by
  rw [written_eq, pending, List.append_nil]

/-- A sink has not got to its own end. -/
theorem not_reached (pending : s.pending = []) : ¬ s.limits.Reached s.texts := by
  rintro (⟨k, limit, beyond⟩ | ⟨n, limit, beyond⟩)
  · obtain ⟨room, -, rfl⟩ := Option.map_eq_some_iff.1 limit
    rw [written_of_pending pending] at beyond
    omega
  · simp only [limits, Option.mem_def, Option.ite_none_right_eq_some, Option.some.injEq] at limit
    obtain ⟨-, rfl⟩ := limit
    simp only [texts, List.length_map] at beyond
    omega

/-! ## Writing a text -/

theorem write_append (s : Sink) (bs more : List UInt8) :
    s.write (bs ++ more) =
      match s.write bs with
      | (t, none) => t.write more
      | failed => failed := by
  cases room : s.room with
  | none => simp [write, room]
  | some left =>
    by_cases fits : bs.length ≤ left
    · by_cases all : bs.length + more.length ≤ left
      · have : more.length ≤ left - bs.length := by omega
        simp [write, room, fits, all, this, Nat.sub_sub]
      · have : ¬ more.length ≤ left - bs.length := by omega
        simp [write, room, fits, all, this, List.take_append, List.take_of_length_le fits]
    · have : ¬ bs.length + more.length ≤ left := by omega
      simp [write, room, fits, this, List.take_append_of_le_length (Nat.le_of_not_le fits)]

/-- It does not matter how a text is cut into pieces. -/
theorem writeAll_eq_write (s : Sink) (pieces : List (List UInt8)) :
    s.writeAll pieces = s.write pieces.flatten := by
  induction pieces generalizing s with
  | nil =>
    obtain ⟨room, _, _, _, _⟩ := s
    cases room <;> simp [writeAll, write]
  | cons bs rest ih =>
    rw [List.flatten_cons, write_append, writeAll]
    split
    · rename_i t written
      rw [written, ih t]
    · rename_i t fault written
      rw [written]

/-- A text fits, or what fits of it is written. -/
theorem write_cases (s : Sink) (bs : List UInt8) :
    ((∀ room ∈ s.room, bs.length ≤ room) ∧
      s.write bs =
        ({ s with pending := s.pending ++ bs, room := s.room.map (· - bs.length) }, none)) ∨
      ∃ room, s.room = some room ∧ room < bs.length ∧
        s.write bs =
          ({ s with pending := s.pending ++ bs.take room, room := some 0 }, some .full) := by
  cases room : s.room with
  | none => simp [write, room]
  | some left =>
    by_cases fits : bs.length ≤ left
    · exact .inl (by simp [write, room, fits])
    · exact .inr ⟨left, rfl, Nat.lt_of_not_le fits, by simp [write, room, fits]⟩

/-- What is pending is let through, or this is the flush that fails. -/
theorem flush_cases (s : Sink) (now : Nat) :
    (∃ left, s.flush now = ({ s with
        flushed := s.flushed ++ [(now, s.pending)]
        pending := []
        goodFlushes := left }, none) ∧
      (s.failsFlush = true → s.goodFlushes = left + 1)) ∨
      (s.failsFlush = true ∧ s.goodFlushes = 0 ∧ s.flush now = (s, some .flush)) := by
  cases fails : s.failsFlush with
  | false => exact .inl ⟨s.goodFlushes, by simp [flush, fails], by simp⟩
  | true =>
    cases good : s.goodFlushes with
    | zero => exact .inr ⟨rfl, rfl, by simp [flush, fails, good]⟩
    | succ left => exact .inl ⟨left, by simp [flush, fails, good], fun _ => rfl⟩

variable {text : List UInt8}

/-- What is written is taken off the room, and a flush off those that work. -/
theorem limits_of_flushed {t : Sink} (pending : s.pending = []) (now : Nat)
    (fits : ∀ room ∈ s.room, text.length ≤ room) (room : t.room = s.room.map (· - text.length))
    (fails : t.failsFlush = s.failsFlush)
    (left : s.failsFlush = true → s.goodFlushes = t.goodFlushes + 1)
    (flushed : t.flushed = s.flushed ++ [(now, text)]) (none : t.pending = []) :
    t.limits = s.limits := by
  have size : t.written.length = s.written.length + text.length := by
    simp [written, flushed, none, pending, List.flatMap_append]
  have bytes : t.limits.bytes = s.limits.bytes := by
    simp only [limits, room, size, Option.map_map]
    refine Option.map_congr fun room limit => ?_
    have := fits room limit
    simp only [Function.comp_apply]
    omega
  have flushes : t.limits.flushes = s.limits.flushes := by
    simp only [limits, fails, flushed, List.length_append, List.length_singleton]
    by_cases failing : s.failsFlush = true
    · rw [if_pos failing, if_pos failing, left failing]
      congr 1
      omega
    · rw [if_neg failing, if_neg failing]
  exact Limits.ext bytes flushes

/-- All fits, and the flush of the text is the one that fails. -/
theorem ends_at_flush (pending : s.pending = []) (fits : ∀ room ∈ s.room, text.length ≤ room)
    (fails : s.failsFlush = true) (none : s.goodFlushes = 0) :
    s.limits.Reached (s.texts ++ [text]) ∧
      s.limits.accepted (s.texts ++ [text]) = s.texts.flatten ++ text := by
  have last : s.limits.flushes = some s.texts.length := by
    simp [limits, fails, none, texts]
  refine ⟨.inr ⟨_, last, by simp⟩, ?_⟩
  rw [Limits.accepted_of_begun (Limits.begun_of_le (by simp [last]))]
  · simp
  · intro k limit
    obtain ⟨room, found, rfl⟩ := Option.map_eq_some_iff.1 limit
    have := fits room found
    rw [written_of_pending pending]
    simp
    omega

/-- Only a part of the text fits. -/
theorem ends_at_room (pending : s.pending = []) {room : Nat} (limit : s.room = some room)
    (beyond : room < text.length) :
    s.limits.Reached (s.texts ++ [text]) ∧
      s.limits.accepted (s.texts ++ [text]) = s.texts.flatten ++ text.take room := by
  have bytes : s.limits.bytes = some (s.texts.flatten.length + room) := by
    simp [limits, limit, written_of_pending pending]
  have all : s.limits.begun (s.texts ++ [text]) = s.texts ++ [text] :=
    Limits.begun_of_le (by simp +contextual [limits, texts])
  refine ⟨.inl ⟨_, bytes, by simpa using beyond⟩, ?_⟩
  simp only [Limits.accepted, bytes, all, List.flatten_append, List.flatten_singleton,
    List.take_length_add_append]

/-- A text is let through, and then the limits are those from before, or output fails: the sink has
accepted all that it ever will. -/
theorem writeAndFlush_cases (pending : s.pending = []) (now : Nat) (pieces : List (List UInt8)) :
    (∃ t, s.writeAndFlush now pieces = (t, none) ∧
      s.endless.writeAndFlush now pieces = (t.endless, none) ∧
      t.pending = [] ∧ t.limits = s.limits) ∨
      ∃ t fault, s.writeAndFlush now pieces = (t, some fault) ∧
        s.limits.Reached (s.texts ++ [pieces.flatten]) ∧
        t.written = s.limits.accepted (s.texts ++ [pieces.flatten]) := by
  have endless : s.endless.NeverFails := ⟨rfl, rfl⟩
  rw [endless.writeAndFlush, writeAndFlush, writeAll_eq_write]
  generalize pieces.flatten = text
  rcases s.write_cases text with ⟨fits, write⟩ | ⟨room, limit, beyond, write⟩
  · rw [write]
    simp only
    rcases flush_cases { s with
        pending := s.pending ++ text, room := s.room.map (· - text.length) } now with
      ⟨left, flush, count⟩ | ⟨fails, none, flush⟩
    · refine .inl ⟨_, flush, by simp [Sink.endless], rfl, ?_⟩
      exact limits_of_flushed pending now fits rfl rfl count (by simp [pending]) rfl
    · obtain ⟨reached, accepted⟩ := ends_at_flush pending fits fails none
      exact .inr ⟨_, _, flush, reached, by rw [accepted, Sink.written_eq, pending]; rfl⟩
  · rw [write]
    obtain ⟨reached, accepted⟩ := ends_at_room pending limit beyond
    exact .inr ⟨_, _, rfl, reached, by rw [accepted, Sink.written_eq, pending]; rfl⟩

end Sink

namespace Printer

variable {p free : Printer} {l : Sink.Limits}

/-! ## Events in a row -/

/-- The printer handles one event after the other until it is done. -/
def handleAll (p : Printer) : List (Nat × Event) → Printer
  | [] => p
  | (now, event) :: rest => if p.verdict.isSome then p else (p.handle now event).handleAll rest

/-- The printer if its output never failed. -/
def endless (p : Printer) : Printer := { p with sink := p.sink.endless }

/-- A printer that is done handles nothing. -/
theorem handleAll_of_done (done : p.verdict.isSome = true) (events : List (Nat × Event)) :
    p.handleAll events = p := by
  cases events with
  | nil => rfl
  | cons first rest => simp [handleAll, done]

theorem handleAll_append (p : Printer) (events more : List (Nat × Event)) :
    p.handleAll (events ++ more) = (p.handleAll events).handleAll more := by
  induction events generalizing p with
  | nil => rfl
  | cons first rest ih =>
    by_cases done : p.verdict.isSome = true
    · rw [handleAll_of_done done, handleAll_of_done done, handleAll_of_done done]
    · simp [handleAll, done, ih]

/-- What a printer on a sink that never fails has written only grows. -/
theorem handleAll_texts {records : List RawRecord} (printed : Printed p free records)
    (events : List (Nat × Event)) :
    ∃ more records, (free.handleAll events).sink.texts = free.sink.texts ++ more ∧
      Printed p (free.handleAll events) records := by
  induction events generalizing free records with
  | nil => exact ⟨[], records, by simp [handleAll], printed⟩
  | cons first rest ih =>
    obtain ⟨now, event⟩ := first
    by_cases done : free.verdict.isSome = true
    · exact ⟨[], records, by simp [handleAll_of_done done], by rwa [handleAll_of_done done]⟩
    · obtain ⟨grown, -⟩ := handle_window printed.sink printed.pending now event
      obtain ⟨more, records, texts, later⟩ := ih (printed.handle now event)
      rw [handleAll, if_neg done]
      exact ⟨_, records, by rw [texts, grown, List.append_assoc], later⟩

/-! ## A printer next to the one that never fails -/

/-- A printer whose output may fail, next to one with the same events whose output does not: they do
the same as long as no limit is reached, and then the first is done. -/
inductive Beside (l : Sink.Limits) : Printer → Printer → Prop where
  | level {p : Printer} (pending : p.sink.pending = []) (limits : p.sink.limits = l) :
      Beside l p p.endless
  | cut {p p₀ free : Printer} {records : List RawRecord} {fault : OutputFault}
      (verdict : p.verdict = some (.outputFailed fault)) (reached : l.Reached free.sink.texts)
      (written : p.sink.written = l.accepted free.sink.texts)
      (printed : Printed p₀ free records) : Beside l p free

theorem endless_printed (pending : p.sink.pending = []) :
    Printed p.endless p.endless p.endless.buffer where
  sink := ⟨rfl, rfl⟩
  pending := pending
  layout := rfl
  follow := rfl
  windows := ⟨[], by simp, by simp, by simp⟩

/-- Writing the window is the same for both, or the output of the first fails. -/
theorem flush_beside (pending : p.sink.pending = []) (now : Nat) :
    ((p.flush now).endless = p.endless.flush now ∧ (p.flush now).sink.pending = [] ∧
      (p.flush now).sink.limits = p.sink.limits) ∨
      ∃ fault, (p.flush now).verdict = some (.outputFailed fault) ∧
        p.sink.limits.Reached (p.endless.flush now).sink.texts ∧
        (p.flush now).sink.written = p.sink.limits.accepted (p.endless.flush now).sink.texts := by
  by_cases empty : p.buffer = []
  · exact .inl (by simp [flush, empty, endless, pending])
  · have filled : p.endless.buffer ≠ [] := empty
    have texts := flush_texts (p := p.endless) ⟨rfl, rfl⟩ pending now
    rw [if_neg filled] at texts
    rcases Sink.writeAndFlush_cases pending now
        ((Window.resolve p.buffer p.follow).map p.layout.lineBytes) with
      ⟨t, write, free, none, limits⟩ | ⟨t, fault, write, reached, written⟩
    · exact .inl (by simp_all [flush, endless, printWindow])
    · have sink : (p.flush now).sink = t := by simp [flush, empty, printWindow, write]
      refine .inr ⟨fault, by simp [flush, empty, printWindow, write], ?_⟩
      rw [texts, sink]
      exact ⟨reached, written⟩

/-- One event, handled by both. -/
theorem handle_beside (pending : p.sink.pending = []) (now : Nat) (event : Event) :
    Beside p.sink.limits (p.handle now event) (p.endless.handle now event) := by
  rcases handle_cases p now event with ⟨r, notFailure, rfl, handled⟩ | ⟨plain, handled⟩
  · have same : p.endless.handle now (.received r) = (p.handle now (.received r)).endless := by
      cases r with
      | failure => cases notFailure
      | data | terminal => rfl
    rw [same, handled]
    exact .level pending rfl
  · rcases handle_cases p.endless now event with ⟨r, notFailure, rfl, -⟩ | ⟨-, free⟩
    · simp [plain r rfl] at notFailure
    · rcases flush_beside (p := p.gather event) pending now with
        ⟨flushed, none, limits⟩ | ⟨fault, verdict, reached, written⟩
      · have same : p.endless.handle now event = (p.handle now event).endless := by
          have gathered : p.endless.gather event = (p.gather event).endless := rfl
          rw [free, handled, endWindow, gathered, ← flushed]
          rfl
        rw [same, handled]
        exact .level none limits
      · have sink : (p.endless.handle now event).sink =
            ((p.gather event).endless.flush now).sink := by rw [free]; rfl
        have records := (endless_printed pending).handle now event
        rw [← sink] at reached written
        have fails : (p.endWindow now event).verdict = some (.outputFailed fault) := by
          simp [endWindow, verdict]
        rw [handled]
        exact .cut fails reached written records

theorem Beside.handleAll (h : Beside l p free) (events : List (Nat × Event)) :
    Beside l (p.handleAll events) (free.handleAll events) := by
  induction events generalizing p free with
  | nil => exact h
  | cons first rest ih =>
    obtain ⟨now, event⟩ := first
    cases h with
    | level pending limits =>
      by_cases done : p.verdict.isSome = true
      · rw [handleAll_of_done done, handleAll_of_done (p := p.endless) done]
        exact .level pending limits
      · have free : ¬ p.endless.verdict.isSome = true := done
        rw [Printer.handleAll, if_neg done, Printer.handleAll, if_neg free]
        exact ih (limits ▸ handle_beside pending now event)
    | cut verdict reached written printed =>
      -- The first is done, and what the other adds is beyond the limit.
      obtain ⟨more, _, texts, later⟩ := handleAll_texts printed ((now, event) :: rest)
      rw [handleAll_of_done (by simp [verdict])]
      rw [← Sink.Limits.accepted_append reached more, ← texts] at written
      exact .cut verdict (texts ▸ reached.append more) written later

/-- What the first has written, and how it has ended. -/
theorem Beside.outcome (h : Beside l p free) :
    p.sink.written = l.accepted free.sink.texts ∧
    free.sink.written = free.sink.texts.flatten ∧
    (l.Reached free.sink.texts → ∃ fault, p.verdict = some (.outputFailed fault)) ∧
    (¬ l.Reached free.sink.texts → p.verdict = free.verdict) := by
  cases h with
  | level pending limits =>
    have within : ¬ l.Reached p.endless.sink.texts := limits ▸ Sink.not_reached pending
    have written := Sink.written_of_pending pending
    exact ⟨written.trans (Sink.Limits.accepted_of_not_reached within).symm, written,
      fun reached => absurd reached within, fun _ => rfl⟩
  | cut verdict reached written printed =>
    exact ⟨written, Sink.written_of_pending printed.pending, fun _ => ⟨_, verdict⟩,
      fun within => absurd reached within⟩

/-! ## The main result -/

/-- What a printer writes to a sink that may fail is a prefix of what it would write, for the same
events, to one that never fails: the first `k` bytes if `k` is what the sink takes. If the sink
comes to its end, be it in the middle of a line or at a flush, then the printer says so and does
nothing more, whatever else there was to report of the same event; otherwise nothing is
different. -/
theorem leaves_a_clean_prefix (pending : p.sink.pending = []) (events : List (Nat × Event)) :
    (p.handleAll events).sink.written =
      p.sink.limits.accepted (p.endless.handleAll events).sink.texts ∧
    (p.handleAll events).sink.written <+: (p.endless.handleAll events).sink.written ∧
    (∀ k ∈ p.sink.limits.bytes, p.sink.failsFlush = false →
      (p.handleAll events).sink.written = (p.endless.handleAll events).sink.written.take k) ∧
    (p.sink.limits.Reached (p.endless.handleAll events).sink.texts →
      (∃ fault, (p.handleAll events).verdict = some (.outputFailed fault)) ∧
      ∀ more, p.handleAll (events ++ more) = p.handleAll events) ∧
    (¬ p.sink.limits.Reached (p.endless.handleAll events).sink.texts →
      (p.handleAll events).sink.written = (p.endless.handleAll events).sink.written ∧
      (p.handleAll events).verdict = (p.endless.handleAll events).verdict) := by
  obtain ⟨written, all, fails, same⟩ := ((Beside.level pending rfl).handleAll events).outcome
  refine ⟨written, ?_, ?_, ?_, ?_⟩
  · rw [written, all]
    exact Sink.Limits.accepted_prefix _ _
  · intro k limit flushes
    rw [written, all]
    simp only [Sink.Limits.accepted, Option.mem_def.1 limit]
    simp [Sink.Limits.begun, Sink.limits, flushes]
  · intro reached
    obtain ⟨fault, verdict⟩ := fails reached
    refine ⟨⟨fault, verdict⟩, fun more => ?_⟩
    rw [handleAll_append, handleAll_of_done (by simp [verdict])]
  · intro within
    exact ⟨by rw [written, all, Sink.Limits.accepted_of_not_reached within], same within⟩

/-- A printer whose output takes no more than a few bytes. -/
def cramped : Printer := { brisk with sink := { room := some 12 } }

/-- What is queued when the run is cancelled: a line, and a failure after it. -/
def interrupted : List RawRecord :=
  [.data "b" "one more line" ⟨5, 0⟩, .failure "b" (.other "reset")]

theorem cramped_leaves_a_clean_prefix :
    (∃ fault, (cramped.handleAll [(60, .cancelled interrupted)]).verdict =
      some (.outputFailed fault)) ∧
      (cramped.handleAll [(60, .cancelled interrupted)]).sink.written =
        (cramped.endless.handleAll [(60, .cancelled interrupted)]).sink.written.take 12 := by
  obtain ⟨-, -, cut, fails, -⟩ :=
    leaves_a_clean_prefix (p := cramped) rfl [(60, .cancelled interrupted)]
  refine ⟨(fails (.inl ⟨12, rfl, ?_⟩)).1, cut 12 rfl rfl⟩
  -- The window that is written is a line of more than twelve bytes.
  have window : cramped.endless.window? 60 (.cancelled interrupted) =
      some (interrupted.take 1) := rfl
  have texts := (handle_window (p := cramped.endless) ⟨rfl, rfl⟩ rfl 60 (.cancelled interrupted)).1
  have sorted : Window.resolve (interrupted.take 1) cramped.endless.follow =
      [⟨"b", "one more line", ⟨5, 0⟩, none⟩] := List.mergeSort_singleton _
  have line : 12 < (cramped.endless.windowBytes (interrupted.take 1)).length := by
    rw [windowBytes, sorted]
    decide +kernel
  have one : (cramped.endless.handleAll [(60, .cancelled interrupted)]).sink.texts =
      [cramped.endless.windowBytes (interrupted.take 1)] := by
    rw [window] at texts
    exact texts
  rwa [one, List.flatten_singleton]

end Printer

namespace Session

variable {s₀ s : Session} {offered taken : List RawRecord}

/-- The session if its output never failed. -/
def endless (s : Session) : Session := { s with printer := s.printer.endless }

/-- Beside every run of a session there is one of the session whose output never fails. The two
differ in their printers only. -/
theorem Run.beside (pending : s₀.printer.sink.pending = []) (run : Run s₀ offered taken s) :
    ∃ free, Run s₀.endless offered taken { s with printer := free } ∧
      Printer.Beside s₀.printer.sink.limits s.printer free := by
  induction run with
  | start => exact ⟨_, .start, .level pending rfl⟩
  | @works _ _ s event _ going sees ih =>
    obtain ⟨free, run, beside⟩ := ih
    cases beside with
    | level pending limits =>
      exact ⟨_, run.works going sees, limits ▸ Printer.handle_beside pending s.now event⟩
    | cut verdict => simp [going] at verdict
  | arrives _ going opened r ih =>
    obtain ⟨free, run, beside⟩ := ih
    cases beside with
    | level pending limits => exact ⟨_, run.arrives going opened r, .level pending limits⟩
    | cut verdict => simp [going] at verdict
  | cancels _ ih =>
    obtain ⟨free, run, beside⟩ := ih
    exact ⟨free, run.cancels, beside⟩
  | closes _ ih =>
    obtain ⟨free, run, beside⟩ := ih
    exact ⟨free, run.closes, beside⟩
  | timePasses _ ms ih =>
    obtain ⟨free, run, beside⟩ := ih
    exact ⟨free, run.timePasses ms, beside⟩

/-- What a session has written to a sink that may fail is a prefix of what it would have written in
the same run to one that never fails. If the sink has come to its end the printer is done and says
so, and otherwise it is where it would be. -/
theorem Run.is_cut_short (pending : s₀.printer.sink.pending = []) (run : Run s₀ offered taken s) :
    ∃ free, Run s₀.endless offered taken { s with printer := free } ∧
      s.printer.sink.written = s₀.printer.sink.limits.accepted free.sink.texts ∧
      s.printer.sink.written <+: free.sink.written ∧
      (s₀.printer.sink.limits.Reached free.sink.texts →
        ∃ fault, s.printer.verdict = some (.outputFailed fault)) ∧
      (¬ s₀.printer.sink.limits.Reached free.sink.texts → s.printer.verdict = free.verdict) := by
  obtain ⟨free, endless, beside⟩ := run.beside pending
  obtain ⟨written, all, fails, same⟩ := beside.outcome
  refine ⟨free, endless, written, ?_, fails, same⟩
  rw [written, all]
  exact Sink.Limits.accepted_prefix _ _

end Session

end Chronicle
