import Chronicle.Proofs.Scripts
/-!
# What a courier does

`Courier.Move` are the moves of a courier, with what each of them reads or queues. `Courier.Stands`
says where a courier stands, given what it has read and queued, and every move keeps it. A courier
makes only so many moves.
-/

namespace Chronicle

/-! ## What is read and what is queued -/

/-- The read gave a line. -/
def Outcome.isLine : Outcome → Bool
  | .line _ => true
  | _ => false

/-- The outcomes of reading a stream: its lines, and then the first outcome that is no line. -/
def Opening.outcomes (o : Opening) : List Outcome :=
  match o.result with
  | some (.ok script) => script.told
  | _ => []

theorem Script.told_shape (script : Script) : ∃ (texts : List String) (last : List Outcome),
    script.told = texts.map .line ++ last ∧ last.length ≤ 1 ∧ ∀ o ∈ last, o.isLine = false := by
  induction script with
  | nil => exact ⟨[], [], rfl, by simp, by simp⟩
  | cons read rest ih =>
    rw [told_cons]
    cases read.result with
    | none => exact ⟨[], [], rfl, by simp, by simp⟩
    | some o =>
      cases o with
      | line text =>
        obtain ⟨texts, last, told, few, others⟩ := ih
        exact ⟨text :: texts, last, by simp [after, told], few, others⟩
      | ended trailing => exact ⟨[], [.ended trailing], rfl, by simp, by simp [Outcome.isLine]⟩
      | failed fault => exact ⟨[], [.failed fault], rfl, by simp, by simp [Outcome.isLine]⟩

theorem Opening.outcomes_shape (o : Opening) : ∃ (texts : List String) (last : List Outcome),
    o.outcomes = texts.map .line ++ last ∧ last.length ≤ 1 ∧ ∀ o ∈ last, o.isLine = false := by
  unfold outcomes
  split
  · exact Script.told_shape _
  · exact ⟨[], [], rfl, by simp, by simp⟩

namespace Courier

/-- The outcomes among acts, each with the time at which it was read. -/
def gotten (acts : List (Nat × Act)) : List (Nat × Outcome) :=
  acts.filterMap fun (time, act) => act.outcome?.map (time, ·)

/-- The records that acts put on the queue. -/
def queued (acts : List (Nat × Act)) : List RawRecord := acts.filterMap fun (_, act) => act.record?

/-- The records of outcomes, each received at its time. -/
def records (start : Instant) (service : String) (got : List (Nat × Outcome)) : List RawRecord :=
  got.map fun (time, o) => recordOf service (start.later time) o

/-! ## How far it is -/

variable {service : String} {s : Surroundings} {c : Courier} {after : After} {act : Act}

/-- The courier waits for something outside: for its stream to be opened, or a read to return. -/
def waitsOutside (s : Surroundings) : Courier → Bool
  | .opening e => (e.step? s).isNone
  | .reading e _ => (e.step? s).isNone
  | _ => false

theorem can_move (inside : c.waitsOutside s = false) (room : s.hasRoom = true) :
    c.moves service s ≠ [] := by
  cases c with
  | opening e | reading e _ =>
    simp only [moves]
    split <;> simp_all [waitsOutside]
  | between script =>
    simp only [moves]
    split <;> simp
  | sending o receivedAt rest =>
    cases closed : s.isClosed <;> simp [moves, offers, closed, room]

end Courier

/-- At most so many moves are made for a call, and for what comes of its result. -/
def Call.moves {α : Type} (call : Call α) (more : α → Nat) : Nat :=
  call.delays.length + (call.result.map fun a => more a + 1).getD 0

/-- At most so many moves are made for a script: to ask for each read, for the read, and to queue
what it gives. A script that is at its end is asked once more. -/
def Script.moves : Script → Nat
  | [] => 1
  | read :: rest => read.moves (fun _ => moves rest + 1) + 1

/-- At most so many moves follow once an opening has returned. -/
def Opening.movesAfter : Except Fault Script → Nat
  | .ok script => script.moves
  | .error _ => 0

theorem Script.moves_next (script : Script) :
    script.moves = script.next.1.moves (fun _ => script.next.2.moves + 1) + 1 := by
  cases script <;> rfl

theorem Errand.moves_goes {α : Type} {e e' : Errand α} {s : Surroundings} {more : α → Nat}
    (goes : e.step? s = some (.waits e') ∨ e.step? s = some (.cancels e')) :
    e'.call.moves more < e.call.moves more := by
  have result := result_of_goes goes
  suffices e'.call.delays.length < e.call.delays.length by
    rw [Call.moves, Call.moves, result]
    omega
  unfold step? at goes
  split at goes
  · simp at goes
  · split at goes
    · simp at goes
    · obtain rfl : _ = e' := by simpa using goes
      simp [*]
    · obtain rfl : _ = e' := by simpa using goes
      simp [*]
    · split at goes
      · obtain rfl : _ = e' := by simpa using goes
        simp [*]
      · simp at goes

theorem Errand.moves_returns {α : Type} {e : Errand α} {s : Surroundings} {a : α}
    (more : α → Nat) (returns : e.step? s = some (.returns a)) : more a < e.call.moves more := by
  simp only [Call.moves, result_of_returns returns, Option.map_some, Option.getD_some]
  omega

namespace Courier

/-- At most so many moves are left to a courier. -/
def After.movesLeft : After → Nat
  | .going (.opening e) => e.call.moves Opening.movesAfter
  | .going (.between script) => script.moves
  | .going (.reading e rest) => e.call.moves fun _ => rest.moves + 1
  | .going (.sending _ _ rest) => rest.moves + 1
  | .done _ => 0

theorem Move.movesLeft (move : Move service s c after act) :
    after.movesLeft < (After.going c).movesLeft := by
  cases move with
  | quiet quiet =>
    cases quiet with
    | opening goes | reading goes => exact Errand.moves_goes goes
    | opened returns => exact Errand.moves_returns Opening.movesAfter returns
    | @asks script =>
      rw [After.movesLeft, Script.moves_next script]
      exact Nat.lt_succ_self _
  | misses returns => exact Errand.moves_returns Opening.movesAfter returns
  | @reads _ rest _ returns => exact Errand.moves_returns (fun _ => rest.moves + 1) returns
  | @queues o => cases o <;> simp [accepted, After.movesLeft]
  | @stops script => cases script <;> simp [After.movesLeft, Script.moves]
  | givesUp => simp [After.movesLeft]

/-! ## Where a courier stands -/

/-- The stream is open, all outcomes that were read are lines, and `more` are those to come. -/
structure ReadsOn (opening : Opening) (got : List (Nat × Outcome)) (more : List Outcome) :
    Prop where
  isOpen : ∃ script, opening.result = some (.ok script)
  lines : ∀ entry ∈ got, entry.2.isLine = true
  rest : got.map Prod.snd ++ more = opening.outcomes

/-- Where a courier stands that has read `got` and queued `sent`. A courier only stops, or gives up
a record, when it is `stopped`. -/
inductive Stands (start : Instant) (service : String) (opening : Opening) (stopped : Bool) :
    After → List (Nat × Outcome) → List RawRecord → Prop where
  | opening {e : Errand (Except Fault Script)} (same : e.call.result = opening.result) :
      Stands start service opening stopped (.going (.opening e)) [] []
  | unopened {fault : Fault} (fails : opening.result = some (.error fault)) :
      Stands start service opening stopped (.done (.error (.notOpened fault))) [] []
  | between {script : Script} {got : List (Nat × Outcome)}
      (reads : ReadsOn opening got script.told) :
      Stands start service opening stopped (.going (.between script)) got
        (records start service got)
  | reading {e : Errand Outcome} {rest : Script} {got : List (Nat × Outcome)}
      (reads : ReadsOn opening got (Script.told (e.call :: rest))) :
      Stands start service opening stopped (.going (.reading e rest)) got
        (records start service got)
  | sending {o : Outcome} {time : Nat} {rest : Script} {got : List (Nat × Outcome)}
      (reads : ReadsOn opening got (o :: rest.after o)) :
      Stands start service opening stopped (.going (.sending o (start.later time) rest))
        (got ++ [(time, o)]) (records start service got)
  | stops {got : List (Nat × Outcome)} {more : List Outcome} (why : stopped = true)
      (reads : ReadsOn opening got more) :
      Stands start service opening stopped (.done (.ok ())) got (records start service got)
  | finishes {o : Outcome} {time : Nat} {got : List (Nat × Outcome)} (last : o.isLine = false)
      (reads : ReadsOn opening got [o]) :
      Stands start service opening stopped (.done (refused o)) (got ++ [(time, o)])
        (records start service (got ++ [(time, o)]))
  | givesUp {o : Outcome} {time : Nat} {got : List (Nat × Outcome)} {more : List Outcome}
      (why : stopped = true) (reads : ReadsOn opening got (o :: more)) :
      Stands start service opening stopped (.done (refused o)) (got ++ [(time, o)])
        (records start service got)

variable {start : Instant} {opening : Opening} {stopped : Bool} {got : List (Nat × Outcome)}
  {sent : List RawRecord} {time : Nat} {more : List Outcome}

theorem Stands.mono {still : Bool} (stands : Stands start service opening stopped after got sent)
    (stays : stopped = true → still = true) :
    Stands start service opening still after got sent := by
  cases stands with
  | opening same => exact .opening same
  | unopened fails => exact .unopened fails
  | between reads => exact .between reads
  | reading reads => exact .reading reads
  | sending reads => exact .sending reads
  | stops why reads => exact .stops (stays why) reads
  | finishes last reads => exact .finishes last reads
  | givesUp why reads => exact .givesUp (stays why) reads

/-- Past a line the stream is read on. -/
theorem ReadsOn.line {text : String} (reads : ReadsOn opening got (.line text :: more)) :
    ReadsOn opening (got ++ [(time, .line text)]) more where
  isOpen := reads.isOpen
  lines := by
    intro entry mem
    rcases List.mem_append.1 mem with before | new
    · exact reads.lines entry before
    · obtain rfl := List.mem_singleton.1 new
      rfl
  rest := by simpa using reads.rest

theorem Stands.quiet {c' : Courier}
    (stands : Stands start service opening stopped (.going c) got sent) (quiet : Quiet s c c') :
    Stands start service opening stopped (.going c') got sent := by
  cases quiet with
  | opening goes =>
    cases stands with
    | opening same => exact .opening ((Errand.result_of_goes goes).trans same)
  | @opened e script returns =>
    cases stands with
    | opening same =>
      have opens : opening.result = some (.ok script) := same ▸ Errand.result_of_returns returns
      exact .between ⟨⟨script, opens⟩, by simp, by simp [Opening.outcomes, opens]⟩
  | @asks script =>
    cases stands with
    | between reads => exact .reading (Script.told_next script ▸ reads)
  | @reading e e' rest goes =>
    cases stands with
    | reading reads => exact .reading (Script.told_congr (Errand.result_of_goes goes) rest ▸ reads)

/-- Every move keeps where the courier stands. -/
theorem Stands.move (stands : Stands start service opening stopped (.going c) got sent)
    (move : Move service s c after act) (clock : s.instant = start.later time)
    (sees : s.cancelled = true ∨ s.isClosed = true → stopped = true) :
    Stands start service opening stopped after (got ++ gotten [(time, act)])
      (sent ++ queued [(time, act)]) := by
  have nothing : gotten [(time, .nothing)] = [] ∧ queued [(time, .nothing)] = [] := ⟨rfl, rfl⟩
  cases move with
  | quiet quiet brings puts => simpa [gotten, queued, brings, puts] using stands.quiet quiet
  | misses returns =>
    cases stands with
    | opening same => exact .unopened (same ▸ Errand.result_of_returns returns)
  | @reads e rest o returns =>
    cases stands with
    | reading reads =>
      rw [Script.told_cons, Errand.result_of_returns returns] at reads
      suffices Stands start service opening stopped (.going (.sending o (start.later time) rest))
          (got ++ [(time, o)]) (records start service got) by
        simpa [gotten, queued, Act.outcome?, Act.record?, clock] using this
      exact .sending reads
  | @queues o _ rest =>
    cases stands with
    | @sending _ since _ got reads =>
      have sent : records start service got ++ [recordOf service (start.later since) o] =
          records start service (got ++ [(since, o)]) := by simp [records]
      suffices Stands start service opening stopped (accepted rest o) (got ++ [(since, o)])
          (records start service (got ++ [(since, o)])) by
        simpa [gotten, queued, Act.outcome?, Act.record?, sent] using this
      cases o with
      | line text => exact .between reads.line
      | ended trailing => exact .finishes rfl reads
      | failed fault => exact .finishes rfl reads
  | stops cancelled =>
    cases stands with
    | between reads => simpa [nothing] using Stands.stops (sees (.inl cancelled)) reads
  | givesUp why =>
    cases stands with
    | sending reads => simpa [nothing] using Stands.givesUp (sees why) reads

/-! ## What that says -/

theorem ReadsOn.read_prefix {o : Outcome} (reads : ReadsOn opening got (o :: more)) :
    (got ++ [(time, o)]).map Prod.snd <+: opening.outcomes :=
  ⟨more, by simpa using reads.rest⟩

theorem ReadsOn.isLine {o : Outcome} (reads : ReadsOn opening got more)
    (mem : o ∈ got.map Prod.snd) : o.isLine = true := by
  obtain ⟨entry, before, rfl⟩ := List.mem_map.1 mem
  exact reads.lines entry before

theorem ReadsOn.no_failure {fault : Fault} (reads : ReadsOn opening got more) :
    .failed fault ∉ got.map Prod.snd :=
  fun mem => Bool.false_ne_true (reads.isLine mem)

/-- The answer is a failed read exactly when one was read last. -/
theorem ReadsOn.refused_iff {o : Outcome} {fault : Fault} (reads : ReadsOn opening got more) :
    refused o = .error (.broken fault) ↔
      .failed fault ∈ (got ++ [(time, o)]).map Prod.snd := by
  rw [List.map_append, List.mem_append, or_iff_right reads.no_failure]
  cases o <;> simp [refused, eq_comm]

theorem refused_ne_notOpened {o : Outcome} {fault : Fault} :
    refused o ≠ .error (.notOpened fault) := by
  cases o <;> simp [refused]

theorem Stands.reads_prefix (stands : Stands start service opening stopped after got sent) :
    got.map Prod.snd <+: opening.outcomes := by
  cases stands with
  | opening | unopened => exact List.nil_prefix
  | between reads | reading reads | stops _ reads => exact ⟨_, reads.rest⟩
  | sending reads | finishes _ reads | givesUp _ reads => exact reads.read_prefix

theorem Stands.queues_prefix (stands : Stands start service opening stopped after got sent) :
    sent <+: records start service got := by
  cases stands with
  | opening | unopened => exact List.nil_prefix
  | between | reading | stops | finishes => exact List.prefix_rfl
  | sending | givesUp => exact ⟨_, List.map_append.symm⟩

theorem Stands.queues_nothing {fault : Fault}
    (stands : Stands start service opening stopped after got sent)
    (fails : opening.result = some (.error fault)) : sent = [] := by
  cases stands with
  | opening | unopened => rfl
  | between reads | reading reads | stops _ reads | sending reads | finishes _ reads
  | givesUp _ reads =>
    obtain ⟨script, opens⟩ := reads.isOpen
    simp [fails] at opens

/-- Once an outcome is read that is no line, a courier at work offers the record of that one. -/
theorem Stands.offers_last {o : Outcome}
    (stands : Stands start service opening stopped after got sent) (mem : o ∈ got.map Prod.snd)
    (last : o.isLine = false) :
    (∃ result, after = .done result) ∨ ∃ time rest, after = .going (.sending o time rest) := by
  cases stands with
  | opening => simp at mem
  | between reads | reading reads => simp [reads.isLine mem] at last
  | @sending o' time rest got reads =>
    rw [List.map_append, List.mem_append] at mem
    rcases mem with before | new
    · simp [reads.isLine before] at last
    · obtain rfl : o = o' := by simpa using new
      exact .inr ⟨_, _, rfl⟩
  | unopened | stops | finishes | givesUp => exact .inl ⟨_, rfl⟩

section Done

variable {result : Except CourierFault Unit} {fault : Fault}
  (stands : Stands start service opening stopped (.done result) got sent)
include stands

theorem Stands.unopened_iff :
    result = .error (.notOpened fault) ↔ opening.result = some (.error fault) := by
  cases stands with
  | unopened fails => simp [fails]
  | stops _ reads =>
    obtain ⟨script, opens⟩ := reads.isOpen
    simp [opens]
  | finishes _ reads | givesUp _ reads =>
    obtain ⟨script, opens⟩ := reads.isOpen
    simp [opens, refused_ne_notOpened]

theorem Stands.broken_iff :
    result = .error (.broken fault) ↔ .failed fault ∈ got.map Prod.snd := by
  cases stands with
  | unopened => simp
  | stops _ reads => simp only [reads.no_failure, reduceCtorEq]
  | finishes _ reads | givesUp _ reads => exact reads.refused_iff

/-- A courier that is done without having been stopped has read and queued everything. -/
theorem Stands.whole (calm : stopped = false) :
    got.map Prod.snd = opening.outcomes ∧ sent = records start service got := by
  cases stands with
  | unopened fails => simp [Opening.outcomes, fails, records]
  | stops why | givesUp why => simp [calm] at why
  | finishes _ reads => exact ⟨by simpa using reads.rest, rfl⟩

end Done

end Courier

end Chronicle
