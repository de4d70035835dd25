import Chronicle.Run.Courier
/-!
# What a courier can do

`Courier.moves` says what a courier can do as a list. Here it is said once more as a relation, one
constructor for each move: `Courier.Move`, with `Courier.move_of_mem` to get there. Followers and
couriers alone are derived from it.
-/

namespace Chronicle

/-- The outcome that an act brings. -/
def Act.outcome? : Act → Option Outcome
  | .got o => some o
  | _ => none

/-- The record that an act puts on the queue. -/
def Act.record? : Act → Option RawRecord
  | .queue r => some r
  | _ => none

namespace Courier

/-- What a courier does without a note: it waits for a call, gets its stream, or starts a read. -/
inductive Quiet (s : Surroundings) : Courier → Courier → Prop where
  | opening {e e' : Errand (Except Fault Script)}
      (goes : e.step? s = some (.waits e') ∨ e.step? s = some (.cancels e')) :
      Quiet s (.opening e) (.opening e')
  | opened {e : Errand (Except Fault Script)} {script : Script}
      (returns : e.step? s = some (.returns (.ok script))) : Quiet s (.opening e) (.between script)
  | asks {script : Script} (calm : s.cancelled = false) :
      Quiet s (.between script) (.reading ⟨s.now, script.next.1⟩ script.next.2)
  | reading {e e' : Errand Outcome} {rest : Script}
      (goes : e.step? s = some (.waits e') ∨ e.step? s = some (.cancels e')) :
      Quiet s (.reading e rest) (.reading e' rest)

/-- The moves of a courier, one constructor for each. -/
inductive Move (service : String) (s : Surroundings) : Courier → After → Act → Prop where
  | quiet {c c' : Courier} {act : Act} (quiet : Quiet s c c') (brings : act.outcome? = none)
      (puts : act.record? = none) : Move service s c (.going c') act
  | misses {e : Errand (Except Fault Script)} {fault : Fault}
      (returns : e.step? s = some (.returns (.error fault))) :
      Move service s (.opening e) (.done (.error (.notOpened fault))) .nothing
  | reads {e : Errand Outcome} {rest : Script} {o : Outcome}
      (returns : e.step? s = some (.returns o)) :
      Move service s (.reading e rest) (.going (.sending o s.instant rest)) (.got o)
  | queues {o : Outcome} {receivedAt : Instant} {rest : Script} (isOpen : s.isClosed = false)
      (room : s.hasRoom = true) :
      Move service s (.sending o receivedAt rest) (accepted rest o)
        (.queue (recordOf service receivedAt o))
  | stops {script : Script} (cancelled : s.cancelled = true) :
      Move service s (.between script) (.done (.ok ())) .nothing
  | givesUp {o : Outcome} {receivedAt : Instant} {rest : Script}
      (why : s.cancelled = true ∨ s.isClosed = true) :
      Move service s (.sending o receivedAt rest) (.done (refused o)) .nothing

variable {service : String} {s : Surroundings} {c : Courier} {after : After} {act : Act}

theorem move_of_mem (mem : (after, act) ∈ c.moves service s) : Move service s c after act := by
  cases c with
  | opening e =>
    simp only [moves] at mem
    split at mem
    · cases mem
    · obtain ⟨rfl, rfl⟩ : after = _ ∧ act = _ := by simpa using mem
      exact .quiet (.opening (.inl ‹_›)) rfl rfl
    · obtain ⟨rfl, rfl⟩ : after = _ ∧ act = _ := by simpa using mem
      exact .quiet (.opening (.inr ‹_›)) rfl rfl
    · obtain ⟨rfl, rfl⟩ : after = _ ∧ act = _ := by simpa using mem
      exact .quiet (.opened ‹_›) rfl rfl
    · obtain ⟨rfl, rfl⟩ : after = _ ∧ act = _ := by simpa using mem
      exact .misses ‹_›
  | between script =>
    simp only [moves] at mem
    split at mem
    · obtain ⟨rfl, rfl⟩ : after = _ ∧ act = _ := by simpa using mem
      exact .stops ‹_›
    · obtain ⟨rfl, rfl⟩ : after = _ ∧ act = _ := by simpa using mem
      exact .quiet (.asks (by simpa using ‹¬ s.cancelled = true›)) rfl rfl
  | reading e rest =>
    simp only [moves] at mem
    split at mem
    · cases mem
    · obtain ⟨rfl, rfl⟩ : after = _ ∧ act = _ := by simpa using mem
      exact .quiet (.reading (.inl ‹_›)) rfl rfl
    · obtain ⟨rfl, rfl⟩ : after = _ ∧ act = _ := by simpa using mem
      exact .quiet (.reading (.inr ‹_›)) rfl rfl
    · obtain ⟨rfl, rfl⟩ : after = _ ∧ act = _ := by simpa using mem
      exact .reads ‹_›
  | sending o receivedAt rest =>
    cases closed : s.isClosed with
    | true =>
      obtain ⟨rfl, rfl⟩ : after = _ ∧ act = _ := by simpa [moves, offers, closed] using mem
      exact .givesUp (.inr closed)
    | false =>
      simp only [moves, offers, closed, Bool.false_eq_true, if_false, List.mem_append] at mem
      rcases mem with mem | mem
      · split at mem
        · obtain ⟨rfl, rfl⟩ : after = _ ∧ act = _ := by simpa using mem
          exact .queues closed ‹_›
        · cases mem
      · split at mem
        · obtain ⟨rfl, rfl⟩ : after = _ ∧ act = _ := by simpa using mem
          exact .givesUp (.inl ‹_›)
        · cases mem

/-- Nothing is queued once the queue is closed. -/
theorem Move.queues_open (move : Move service s c after act) :
    act.record? = none ∨ s.isClosed = false := by
  cases move with
  | quiet _ _ puts => exact .inl puts
  | misses | reads | stops | givesUp => exact .inl rfl
  | queues isOpen => exact .inr isOpen

end Courier

end Chronicle
