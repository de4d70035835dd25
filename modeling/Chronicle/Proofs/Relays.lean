import Chronicle.Proofs.Couriers
import Chronicle.Proofs.Schedule
import Chronicle.Run.Relay
/-!
# One courier and its queue

A courier beside a reader who takes records from the queue, closes it or goes away, and a user who
cancels, all of it at any time: `Relay.Course` are the courses that this can take, with what the
courier does in each. So the records of a stream are queued in the order in which it is read, one
for each outcome, until the stream or the courier comes to its end:
`Relay.Course.hands_on_in_order`.
-/

namespace Chronicle

namespace Relay

open Courier

variable {start : Instant} {service : String} {opening : Opening} {capacity : Nat} {reader : Reader}
  {r r₀ : Relay} {done : List (Nat × Act)}

/-! ## What can happen to a relay -/

/-- A relay after a move of its courier. -/
def moved (r : Relay) (after : Courier.After) (act : Act) : Relay :=
  let doneAt := match after with
    | .done _ => some r.now
    | .going _ => none
  { r.perform act with courier := after, doneAt }

/-- The courses that a relay can take from `r₀`, with what the courier does in each, and when: it
moves when it can, records are taken one at a time, and the rest may happen at any time. -/
inductive Course (start : Instant) (r₀ : Relay) : List (Nat × Act) → Relay → Prop where
  | begins : Course start r₀ [] r₀
  | moves {done : List (Nat × Act)} {r : Relay} {c : Courier} {after : Courier.After} {act : Act}
      (before : Course start r₀ done r) (going : r.courier = .going c) (kept : r.abandoned = false)
      (move : (after, act) ∈ c.moves r.service (r.surroundings start)) :
      Course start r₀ (done ++ [(r.now, act)]) (r.moved after act)
  /-- The reader takes a record, if there is one, and has other plans from here on. -/
  | takes {done : List (Nat × Act)} {r : Relay} (before : Course start r₀ done r)
      (reader : Reader) : Course start r₀ done { r.take with reader }
  /-- The reader closes the queue, and may still take what is in it. -/
  | closes {done : List (Nat × Act)} {r : Relay} (before : Course start r₀ done r)
      (reader : Reader) : Course start r₀ done { r with closed := true, reader }
  /-- The reader goes away, and what is in the queue is lost. -/
  | leaves {done : List (Nat × Act)} {r : Relay} (before : Course start r₀ done r)
      (reader : Reader) : Course start r₀ done { r with closed := true, queue := [], reader }
  /-- The user cancels. -/
  | cancels {done : List (Nat × Act)} {r : Relay} (before : Course start r₀ done r) :
      Course start r₀ done { r with cancelled := true }
  /-- The courier is given up. -/
  | abandons {done : List (Nat × Act)} {r : Relay} (before : Course start r₀ done r) :
      Course start r₀ done { r with abandoned := true }
  | waits {done : List (Nat × Act)} {r : Relay} {now : Nat} (before : Course start r₀ done r)
      (later : r.now ≤ now) : Course start r₀ done { r with now }

/-- The courier is told to stop, or finds that nobody takes records any more. -/
def isStopped (r : Relay) : Bool := r.cancelled || r.closed

theorem perform_queue (act : Act) : (r.perform act).queue = r.queue ++ act.record?.toList ∧
    (r.perform act).taken = r.taken := by
  cases act <;> simp [perform, Act.record?]

theorem perform_marks (act : Act) :
    (r.perform act).service = r.service ∧ (r.perform act).closed = r.closed ∧
      (r.cancelled = true → (r.perform act).cancelled = true) := by
  cases act <;> simp [perform]

theorem Course.service_eq (course : Course start r₀ done r) : r.service = r₀.service := by
  induction course with
  | begins => rfl
  | moves _ _ _ _ ih => exact (perform_marks _).1.trans ih
  | takes _ _ ih | closes _ _ ih | leaves _ _ ih | cancels _ ih | abandons _ ih | waits _ _ ih =>
    exact ih

/-- In every course the courier stands where it has come to by what it has read and queued. -/
theorem Course.stands
    (course : Course start (Relay.start service opening capacity reader) done r) :
    Stands start service opening r.isStopped r.courier (gotten done) (queued done) := by
  induction course with
  | begins => exact .opening rfl
  | @moves done r c after act before going _ mem ih =>
    have move := move_of_mem (before.service_eq ▸ mem)
    obtain ⟨-, closed, cancelled⟩ := perform_marks (r := r) act
    rw [gotten, queued, List.filterMap_append, List.filterMap_append]
    refine ((going ▸ ih).move move rfl ?_).mono ?_
    · simp [isStopped, surroundings]
    · simp only [isStopped, moved, Bool.or_eq_true, closed]
      rintro (was | was)
      · exact .inl (cancelled was)
      · exact .inr was
  | takes _ _ ih | abandons _ ih | waits _ _ ih => exact ih
  | closes _ _ ih | leaves _ _ ih | cancels _ ih => exact ih.mono (by simp [isStopped])

/-- A courier only makes so many moves. -/
theorem Course.ends (course : Course start (Relay.start service opening capacity reader) done r) :
    done.length + r.courier.movesLeft ≤ opening.moves Opening.movesAfter := by
  induction course with
  | begins => exact Nat.le_of_eq (Nat.zero_add _)
  | @moves done r c after act before going _ mem ih =>
    have fewer := (move_of_mem mem).movesLeft
    rw [going] at ih
    rw [List.length_append, List.length_singleton]
    change _ + after.movesLeft ≤ _
    omega
  | takes _ _ ih | closes _ _ ih | leaves _ _ ih | cancels _ ih | abandons _ ih | waits _ _ ih =>
    exact ih

/-- The queue and the reader have what was queued, as long as nobody closes the queue; and never
anything else. -/
theorem Course.arrives
    (course : Course start (Relay.start service opening capacity reader) done r) :
    r.taken.map Prod.snd ++ r.queue <+: queued done ∧
      (r.closed = false → r.taken.map Prod.snd ++ r.queue = queued done) := by
  induction course with
  | begins => exact ⟨List.nil_prefix, fun _ => rfl⟩
  | @moves done r c after act _ _ _ mem ih =>
    obtain ⟨queue, taken⟩ := perform_queue (r := r) act
    obtain ⟨-, closed, -⟩ := perform_marks (r := r) act
    have all : queued (done ++ [(r.now, act)]) = queued done ++ act.record?.toList := by
      cases record : act.record? <;> simp [queued, record]
    simp only [moved, queue, taken, closed, all, ← List.append_assoc]
    refine ⟨?_, fun isOpen => by rw [ih.2 isOpen]⟩
    rcases (move_of_mem mem).queues_open with none | isOpen
    · simpa [none] using ih.1
    · exact congrArg (· ++ act.record?.toList) (ih.2 isOpen) ▸ List.prefix_rfl
  | @takes done r before reader ih =>
    have same : r.take.taken.map Prod.snd ++ r.take.queue = r.taken.map Prod.snd ++ r.queue := by
      cases queue : r.queue <;> simp [take, queue]
    exact same ▸ ih
  | closes _ _ ih => exact ⟨ih.1, by simp⟩
  | leaves _ _ ih => exact ⟨by simpa using (List.prefix_append _ _).trans ih.1, by simp⟩
  | cancels _ ih | abandons _ ih | waits _ _ ih => exact ih

/-- What comes of a courier, in terms of what it has done. -/
structure HandsOn (start : Instant) (service : String) (opening : Opening)
    (done : List (Nat × Act)) (r : Relay) : Prop where
  /-- There are lines to read, and then at most one outcome that is no line. -/
  shape : ∃ (texts : List String) (last : List Outcome),
    opening.outcomes = texts.map .line ++ last ∧ last.length ≤ 1 ∧ ∀ o ∈ last, o.isLine = false
  /-- They are read in order. -/
  reads : (gotten done).map Prod.snd <+: opening.outcomes
  /-- A record is queued for each, in order. -/
  queues : queued done <+: records start service (gotten done)
  /-- What is queued is what the reader takes, or is there for it. -/
  arrives : r.taken.map Prod.snd ++ r.queue <+: queued done ∧
    (r.closed = false → r.taken.map Prod.snd ++ r.queue = queued done)
  /-- Nothing is queued of a stream that cannot be opened, and that is the answer. -/
  nothing : ∀ fault, opening.result = some (.error fault) → queued done = []
  unopened : ∀ result fault, r.courier = .done result →
    (result = .error (.notOpened fault) ↔ opening.result = some (.error fault))
  /-- A failed read is the answer whenever there was one. -/
  broken : ∀ result fault, r.courier = .done result →
    (result = .error (.broken fault) ↔ .failed fault ∈ (gotten done).map Prod.snd)
  /-- A courier that nobody stops is not done before everything is queued. -/
  whole : ∀ result, r.courier = .done result → r.cancelled = false → r.closed = false →
    (gotten done).map Prod.snd = opening.outcomes ∧
      queued done = records start service (gotten done)
  /-- After an outcome that is no line only the record of that can be left to queue. -/
  last : ∀ o ∈ (gotten done).map Prod.snd, o.isLine = false →
    (∃ result, r.courier = .done result) ∨
      ∃ time rest, r.courier = .going (.sending o time rest)
  /-- It comes to an end: the courier can move unless it waits for something outside or for room in
  the queue, and it makes only so many moves. -/
  goes_on : ∀ c, r.courier = .going c → c.waitsOutside (r.surroundings start) = false →
    r.queue.length < r.capacity → c.moves service (r.surroundings start) ≠ []
  ends : done.length + r.courier.movesLeft ≤ opening.moves Opening.movesAfter

/-- A courier hands its stream on in order, whatever the reader and the user do: the records that it
queues are those of the lines and of the outcome after them, up to where it stops. -/
theorem Course.hands_on_in_order
    (course : Course start (Relay.start service opening capacity reader) done r) :
    HandsOn start service opening done r where
  shape := opening.outcomes_shape
  reads := course.stands.reads_prefix
  queues := course.stands.queues_prefix
  arrives := course.arrives
  nothing _ fails := course.stands.queues_nothing fails
  unopened _ _ ended := (ended ▸ course.stands).unopened_iff
  broken _ _ ended := (ended ▸ course.stands).broken_iff
  whole _ ended calm isOpen := (ended ▸ course.stands).whole (by simp [isStopped, calm, isOpen])
  last _ mem isLast := course.stands.offers_last mem isLast
  goes_on _ _ inside room := can_move inside (by simpa [surroundings] using room)
  ends := course.ends

/-! ## The schedule -/

theorem Course.trans {r₁ : Relay} {more : List (Nat × Act)} (first : Course start r₀ done r₁)
    (second : Course start r₁ more r) : Course start r₀ (done ++ more) r := by
  induction second with
  | begins => simpa using first
  | moves _ going kept move ih => simpa using ih.moves going kept move
  | takes _ reader ih => exact ih.takes reader
  | closes _ reader ih => exact ih.closes reader
  | leaves _ reader ih => exact ih.leaves reader
  | cancels _ ih => exact ih.cancels
  | abandons _ ih => exact ih.abandons
  | waits _ later ih => exact ih.waits later

theorem lt_nextWake {cancelAt : Option Nat} {t : Nat} (h : r.nextWake? cancelAt = some t) :
    r.now < t := by
  simpa using (List.mem_filter.1 (World.earliest?_mem h)).2

theorem course_courierMove {r' : Relay} (working : r.isAtWork = true)
    (move : r.courierMove? start = some r') : ∃ done, Course start r done r' := by
  unfold courierMove? at move
  split at move
  · cases move
  · next c going =>
    obtain ⟨⟨after, act⟩, head, rfl⟩ := Option.map_eq_some_iff.1 move
    have kept : r.abandoned = false := by simpa [isAtWork, going] using working
    exact ⟨_, Course.begins.moves going kept (List.mem_of_head? head)⟩

theorem course_readerMove {r' : Relay} (move : r.readerMove? = some r') :
    Course start r [] r' := by
  have drops (h : readerMove?.drop r = some r') : Course start r [] r' := by
    unfold readerMove?.drop at h
    split at h
    · obtain rfl := Option.some.inj h
      exact Course.begins.closes _
    · cases h
  unfold readerMove? at move
  split at move
  · split at move
    · obtain rfl := Option.some.inj move
      exact Course.begins.takes _
    · exact drops move
  · exact drops move

/-- What the schedule decides to happen next is one of the things that can happen. -/
theorem course_next {cancelAt : Option Nat} {horizon : Nat} {r' : Relay}
    (next : r.next? start cancelAt horizon = some r') : ∃ done, Course start r done r' := by
  unfold next? at next
  split at next
  · obtain rfl := Option.some.inj next
    exact ⟨[], Course.begins.cancels⟩
  · split at next
    · next move =>
      obtain rfl := Option.some.inj next
      split at move
      · next working => exact course_courierMove working move
      · cases move
    · split at next
      · obtain rfl := Option.some.inj next
        exact ⟨[], Course.begins.abandons⟩
      · next early =>
        split at next
        · next move =>
          obtain rfl := Option.some.inj next
          exact ⟨[], course_readerMove move⟩
        · obtain ⟨t, wakes, rfl⟩ := Option.map_eq_some_iff.1 next
          refine ⟨[], Course.begins.waits ?_⟩
          have later := lt_nextWake wakes
          split
          · next working =>
            have : ¬ horizon ≤ r.now := by simpa [working] using early
            omega
          · omega

theorem course_runFor {cancelAt : Option Nat} {horizon : Nat} (steps : Nat) (r : Relay) :
    ∃ done, Course start r done (r.runFor start cancelAt horizon steps) := by
  induction steps generalizing r with
  | zero => exact ⟨[], .begins⟩
  | succ steps ih =>
    unfold runFor
    split
    · exact ⟨[], .begins⟩
    · next r' next =>
      obtain ⟨first, course⟩ := course_next next
      obtain ⟨rest, later⟩ := ih r'
      exact ⟨first ++ rest, course.trans later⟩

/-- Two lines and a failure, for a queue with one slot. -/
def crumbling : Opening where
  delays := [.pause 5]
  result := some (.ok [{ result := some (.line "one") }, { result := some (.line "two") },
    { delays := [.pause 20], result := some (.failed .http) }, { result := some (.line "lost") }])

/-- What comes of that with a reader who comes back for a record twice. -/
def crumbled : Relay :=
  (Relay.start "web" crumbling 1 { takes := [10, 40] }).runFor ⟨1700000000, 0⟩ none 1000 100

theorem crumbling_is_handed_on :
    crumbled.courier = .done (.error (.broken .http)) ∧ ∃ done,
      Course ⟨1700000000, 0⟩ (Relay.start "web" crumbling 1 { takes := [10, 40] }) done crumbled ∧
      (gotten done).map Prod.snd = [.line "one", .line "two", .failed .http] ∧
      queued done = [.data "web" "one" ⟨1700000000, 5000000⟩,
        .data "web" "two" ⟨1700000000, 5000000⟩, .failure "web" .http] := by
  have failed : crumbled.courier = .done (.error (.broken .http)) := rfl
  obtain ⟨done, course⟩ : ∃ done, Course ⟨1700000000, 0⟩ _ done crumbled := course_runFor 100 _
  have hands_on := course.hands_on_in_order
  exact ⟨failed, done, course, (hands_on.whole _ failed rfl rfl).1, (hands_on.arrives.2 rfl).symm⟩

end Relay

end Chronicle
