import Chronicle.Proofs.Courses
import Chronicle.Proofs.Interleavings
import Chronicle.Proofs.Scripts
import Chronicle.Proofs.Tally
/-!
# Independence of the order of work

In a run that does not follow its streams the followers may work in any order, and the records of
different services come on the queue accordingly. If the texts of all streams have a time, and no
two services one of the same time, then what is put on the queue is one of the interleavings of what
the scripts have to tell, and a printer that writes it as one window writes the same for all of
them: `prints_alike`.
-/

namespace Chronicle

open Window

/-! ## Texts and their times -/

/-- The time in front of a text. -/
def Line.time? (text : String) : Option Instant :=
  match read text with
  | .ok line => some line.time
  | .error _ => none

/-- The text that an outcome hands on. An empty last piece is none. -/
def Outcome.text? : Outcome → Option String
  | .line text => some text
  | .ended trailing => trailing.filter (· ≠ "")
  | .failed _ => none

/-- The text that a follower has got. -/
def Deed.text? : Deed → Option String
  | .got o => o.text?
  | _ => none

/-- The texts of a stream. -/
def Opening.texts (o : Opening) : List String := o.tells.filterMap Deed.text?

/-- Distinct services whose streams are read once. None of the streams fails, every text has a time,
and texts of different services are of different times. -/
structure Plan.Timed {σ : Type} (p : Plan σ) (backend : σ) : Prop where
  once : p.follow = false
  served : p.services ≠ []
  distinct : p.services.Nodup
  independent : p.backend.Independent
  calm : ∀ service ∈ p.services, ∀ d ∈ (p.opening backend service).tells, d.fails = false
  stamped : ∀ service ∈ p.services, ∀ text ∈ (p.opening backend service).texts,
    (Line.time? text).isSome = true
  apart : ∀ a ∈ p.services, ∀ b ∈ p.services, a ≠ b →
    ∀ text ∈ (p.opening backend a).texts, ∀ other ∈ (p.opening backend b).texts,
      Line.time? text ≠ Line.time? other

theorem Window.stamped_congr {text : String} (timed : (Line.time? text).isSome = true)
    (service : String) (t t' : Instant) : stamped service text t = stamped service text t' := by
  unfold stamped
  cases read : Line.read text with
  | ok line => rfl
  | error fault => simp [Line.time?, read] at timed

theorem Window.stamped_time {text : String} (timed : (Line.time? text).isSome = true)
    (service : String) (t : Instant) : some (stamped service text t).time = Line.time? text := by
  unfold stamped Line.time? at *
  split <;> simp_all

theorem Deed.text?_of_told {d : Deed} {text : String} (h : d.text? = some text) :
    d.isTold = true := by
  cases d <;> simp_all [Deed.text?, isTold]

theorem Deed.told_of_fails {d : Deed} (h : d.fails = true) : d.isTold = true := by
  cases d <;> simp_all [fails, isTold]

theorem Deed.texts_of_told (deeds : List Deed) :
    (deeds.filter isTold).filterMap text? = deeds.filterMap text? := by
  rw [List.filterMap_filter]
  apply List.filterMap_congr
  intro d _
  cases text : d.text? with
  | none => simp
  | some t => simp [text?_of_told text]

variable {σ : Type} {p : Plan σ} {service : String} {i : Nat}

/-! ## The entries of notes -/

theorem Plan.service_of_record {n : Note} {r : RawRecord} (h : p.record? n = some r) :
    p.services[n.follower]? = some r.service := by
  unfold Plan.record? at h
  split at h
  · next o served _ =>
    obtain rfl := Option.some.inj h
    cases o <;> exact served
  · next served _ =>
    obtain rfl := Option.some.inj h
    exact served
  · cases h

theorem Plan.entries_of_note {n : Note} (served : p.services[n.follower]? = some service) :
    (p.record? n).toList.flatMap (entriesOf false) =
      (n.deed.text?.map (Window.stamped service · (p.start.later n.time))).toList := by
  unfold Plan.record?
  cases deed : n.deed with
  | got o =>
    cases o with
    | line text => simp [served, Courier.recordOf, entriesOf, Deed.text?, Outcome.text?]
    | failed fault => simp [served, Courier.recordOf, entriesOf, Deed.text?, Outcome.text?]
    | ended trailing =>
      cases trailing with
      | none => simp [served, Courier.recordOf, entriesOf, Deed.text?, Outcome.text?]
      | some text =>
        by_cases empty : text = "" <;>
          simp [served, Courier.recordOf, entriesOf, Deed.text?, Outcome.text?, empty,
            Option.filter]
  | notOpened fault => simp [served, entriesOf, Deed.text?]
  | _ => simp [served, Deed.text?]

/-- What the notes of a follower have to show are the texts that it got, if all of them have a time;
when they were received does not matter. -/
theorem Plan.entries_of_notes (served : p.services[i]? = some service) (t : Instant)
    {notes : List Note} (own : ∀ n ∈ notes, n.follower = i)
    (timed : ∀ n ∈ notes, ∀ text, n.deed.text? = some text → (Line.time? text).isSome = true) :
    entries false (notes.filterMap p.record?) =
      ((notes.map Note.deed).filterMap Deed.text?).map (Window.stamped service · t) := by
  have each : ∀ n ∈ notes, (p.record? n).toList.flatMap (entriesOf false) =
      (n.deed.text?.map (Window.stamped service · t)).toList := by
    intro n mem
    rw [entries_of_note (own n mem ▸ served)]
    cases text : n.deed.text? with
    | none => rfl
    | some s => simp [stamped_congr (timed n mem s text) service _ t]
  rw [entries, List.filterMap_eq_flatMap_toList, List.flatMap_assoc, List.filterMap_map,
    List.map_filterMap, List.filterMap_eq_flatMap_toList]
  exact List.flatMap_congr each

namespace World

variable {w : World σ} {f : Follower} {backend : σ} {printer : Printer}

/-! ## What is put on the queue -/

section Start

variable (served : p.services ≠ []) (reach : Reachable p (World.start p backend printer) w)
  (user : w.userCancelled = false)
include served reach user

theorem Reachable.service_of_queued {n : Note} {r : RawRecord} (noted : n ∈ w.journal)
    (queued : n.queued? = some r) : p.services[n.follower]? = some r.service := by
  have at_n := List.getElem?_eq_getElem (reach.note_bound rfl n noted)
  have own : n ∈ w.notesOf n.follower := by simpa [notesOf] using noted
  have read : r ∈ (w.notesOf n.follower).filterMap p.record? := by
    rw [(reach.balance served user at_n).records]
    exact List.mem_append_left _ (List.mem_filterMap.2 ⟨n, own, queued⟩)
  obtain ⟨m, mem, record⟩ := List.mem_filterMap.1 read
  have same : m.follower = n.follower := by simpa using (List.mem_filter.1 mem).2
  exact same ▸ Plan.service_of_record record

/-- The records of a service on the queue are those that its follower has put there. -/
theorem Reachable.filter_queued (distinct : p.services.Nodup)
    (at_i : w.followers[i]? = some f) :
    w.queued.filter (·.service = f.service) = (w.notesOf i).filterMap Note.queued? := by
  rw [World.queued, notesOf, List.filter_filterMap, List.filterMap_filter]
  apply List.filterMap_congr
  intro n mem
  cases queued : n.queued? with
  | none => simp
  | some r =>
    -- The place of a service tells it from the others.
    have of_n := reach.service_of_queued served user (List.mem_reverse.1 mem) queued
    have of_i := reach.served at_i
    have bound := (List.getElem?_eq_some_iff.1 of_i).1
    have same : r.service = f.service ↔ n.follower = i := by
      constructor
      · intro same
        exact ((List.getElem?_inj bound distinct).1 (by rw [of_i, of_n, same])).symm
      · rintro rfl
        exact Option.some.inj (of_n.symm.trans of_i)
    by_cases own : n.follower = i <;> simp [Option.filter, same, own]

end Start

section Timed

variable (timed : p.Timed backend) (reach : Reachable p (World.start p backend printer) w)
  (user : w.userCancelled = false)
include timed reach user

theorem Reachable.calm_of_timed : ∀ n ∈ w.journal, n.deed.fails = false := by
  intro n noted
  have at_n := List.getElem?_eq_getElem (reach.note_bound rfl n noted)
  have own : n ∈ w.notesOf n.follower := by simpa [notesOf] using noted
  have tells := reach.tells timed.once timed.served timed.independent timed.distinct user at_n
  cases fails : n.deed.fails with
  | false => rfl
  | true =>
    have told : n.deed ∈ (w.deedsOf n.follower).filter Deed.isTold :=
      List.mem_filter.2 ⟨List.mem_map.2 ⟨n, own, rfl⟩, Deed.told_of_fails fails⟩
    have known := tells ▸ List.mem_append_left _ told
    exact fails ▸ timed.calm _ (List.mem_of_getElem? (reach.served at_n)) _ known

/-- Once no follower is active, what a service has on the queue to show are the texts of its
stream. -/
theorem Reachable.ofService_queued (idle : ∀ f ∈ w.followers, f.isActive = false) (t : Instant)
    (service : String) :
    ofService false service w.queued = if service ∈ p.services
      then (p.opening backend service).texts.map (Window.stamped service · t) else [] := by
  split
  · next mem =>
    obtain ⟨i, bound, rfl⟩ := List.getElem_of_mem mem
    rw [← reach.followers_length] at bound
    have at_i := List.getElem?_eq_getElem bound
    generalize w.followers[i] = f at at_i
    have served_i := reach.served at_i
    obtain ⟨_, same⟩ := List.getElem?_eq_some_iff.1 served_i
    have rests := idle f (List.mem_of_getElem? at_i)
    have texts : (w.deedsOf i).filterMap Deed.text? = (p.opening backend f.service).texts := by
      rw [← Deed.texts_of_told, reach.told_all timed.once timed.served timed.independent
        timed.distinct user at_i rests]
      rfl
    have records := (reach.balance timed.served user at_i).records
    rw [held_of_idle rests, List.append_nil] at records
    rw [same, ofService_eq, reach.filter_queued timed.served user timed.distinct at_i, ← records,
      Plan.entries_of_notes served_i t (fun n mem => by simpa using (List.mem_filter.1 mem).2),
      ← texts]
    · rfl
    · intro n own text of_n
      refine timed.stamped _ (List.mem_of_getElem? served_i) text ?_
      rw [← texts]
      exact List.mem_filterMap.2 ⟨n.deed, List.mem_map.2 ⟨n, own, rfl⟩, of_n⟩
  · next other =>
    rw [ofService_eq, List.filter_eq_nil_iff.2]
    · rfl
    · intro r mem
      obtain ⟨n, noted, queued⟩ := List.mem_filterMap.1 mem
      have of_n := reach.service_of_queued timed.served user (List.mem_reverse.1 noted) queued
      simp only [decide_eq_true_eq]
      rintro rfl
      exact other (List.mem_of_getElem? of_n)

/-- What is on the queue in the end are entries of different times for different services. -/
theorem Reachable.queued_apart (idle : ∀ f ∈ w.followers, f.isActive = false) :
    Apart (entries false w.queued) := by
  have of_text : ∀ e ∈ entries false w.queued, e.service ∈ p.services ∧
      ∃ text ∈ (p.opening backend e.service).texts, some e.time = Line.time? text := by
    intro e mem
    have own : e ∈ ofService false e.service w.queued := List.mem_filter.2 ⟨mem, by simp⟩
    rw [reach.ofService_queued timed user idle p.start] at own
    split at own
    · next listed =>
      obtain ⟨text, told, same⟩ := List.mem_map.1 own
      refine ⟨listed, text, told, ?_⟩
      rw [← stamped_time (timed.stamped _ listed text told) e.service p.start, same]
    · cases own
  intro a mem_a b mem_b other same
  obtain ⟨listed_a, text_a, told_a, time_a⟩ := of_text a mem_a
  obtain ⟨listed_b, text_b, told_b, time_b⟩ := of_text b mem_b
  exact timed.apart _ listed_a _ listed_b other _ told_a _ told_b
    (by rw [← time_a, ← time_b, same])

end Timed

/-! ## What is printed -/

/-- A run that has finished well and written all in at most one window has put what was on the queue
in order of time. -/
theorem Reachable.written_at_once (fresh : printer.Fresh)
    (reach : Reachable p (World.start p backend printer) w)
    (finished : w.printer.verdict = some .finished) (empty : w.queue = [])
    (once : w.printer.sink.texts.length ≤ printer.sink.texts.length + 1) :
    w.printer.sink.written = printer.sink.written ++
      (World.start p backend printer).printer.windowBytes w.queued := by
  obtain ⟨taken, run⟩ := reach.session rfl
  obtain ⟨windows, course⟩ := run.course
  have account := course.account (fresh_start fresh)
  have kept := run.kept (fresh_start fresh)
  obtain ⟨ends, nothing⟩ := kept.ended _ finished
  have all : windows.flatten = w.queued := by
    cases ends with
    | finished readable =>
      have split := account.split
      rw [nothing, List.append_nil, Printer.filter_readable readable] at split
      simpa [World.session, empty, split] using kept.queue.symm
  have few : windows.length ≤ 1 := by
    have texts := congrArg List.length account.texts
    rw [List.length_append, List.length_map] at texts
    simp only [World.session, World.start] at texts
    omega
  rw [← all]
  refine (account.written (fresh_start fresh)).trans ?_
  cases windows with
  | nil => simp [World.session, World.start, Printer.shown, Printer.windowBytes, resolve, entries]
  | cons window others =>
    cases others with
    | nil => simp [World.session, World.start, Printer.shown, Printer.windowBytes]
    | cons => simp at few

/-- A run that is over and was not cancelled by the user, in which all was written in one window. -/
structure EndsAtOnce (printer : Printer) (w : World σ) : Prop where
  done : w.isOver = true
  user : w.userCancelled = false
  once : w.printer.sink.texts.length ≤ printer.sink.texts.length + 1

theorem Reachable.written_of_timed (timed : p.Timed backend) (fresh : printer.Fresh)
    (reach : Reachable p (World.start p backend printer) w) (ends : w.EndsAtOnce printer) :
    (∀ f ∈ w.followers, f.isActive = false) ∧
    w.printer.sink.written = printer.sink.written ++
      (World.start p backend printer).printer.windowBytes w.queued := by
  have calm := reach.calm_of_timed timed ends.user
  have finished := reach.finished_of_calm timed.served ends.user fresh ends.done calm
  obtain ⟨empty, idle⟩ := reach.finished timed.served fresh ends.user finished
  exact ⟨idle, reach.written_at_once fresh finished empty ends.once⟩

/-- A run that has written nothing when it is cancelled ends with a single window. -/
theorem endsAtOnce_of_cancelled {v : World σ} {horizon : Nat} (steps : Nat) (fresh : printer.Fresh)
    (at_v : w.runFor p none horizon steps = v) (going : v.isOver = false)
    (cancelled : v.cancelled = true) (user : v.userCancelled = false)
    (nothing : v.printer.sink = printer.sink) :
    (w.runFor p none horizon (steps + 1)).EndsAtOnce printer := by
  generalize last : ({ v with
    printer := v.printer.handle v.now (.cancelled v.queue), queue := [] } : World σ) = done
  have next : v.next? p none horizon = some done := by
    simp [next?, going, printerMove?, cancelled, Printer.next_cancelled, Printer.Event.leaves, last]
  rw [runFor_succ (at_v ▸ next)]
  subst last
  refine ⟨by simp [isOver, Printer.handle, Printer.conclude], user, ?_⟩
  have texts := (Printer.handle_window (nothing ▸ fresh.sink) (nothing ▸ fresh.pending) v.now
    (.cancelled v.queue)).1
  show (v.printer.handle v.now (.cancelled v.queue)).sink.texts.length ≤ _
  rw [texts, nothing, List.length_append, List.length_map]
  exact Nat.add_le_add_left Option.length_toList_le _

/-- Within a window the order of work does not matter. All interleavings of the same streams, in
which no two services have entries of one time, are written alike when the window is over. So are
two runs of the same services, whose streams tell the same and are read once, if each comes to its
end within one window: whichever followers worked first, the same is written. -/
theorem prints_alike (printer : Printer) :
    (∀ (streams : String → List RawRecord) (records other : List RawRecord) (now : Nat),
      IsMerge streams records → IsMerge streams other → Apart (entries printer.follow records) →
      ({ printer with buffer := records } : Printer).flush now =
        ({ printer with buffer := other } : Printer).flush now) ∧
    ∀ {σ τ : Type} (p : Plan σ) (q : Plan τ) (backend : σ) (backend' : τ) (w : World σ)
      (v : World τ), printer.Fresh → p.Timed backend → q.Timed backend' →
      p.services = q.services →
      (∀ service ∈ p.services,
        (p.opening backend service).tells = (q.opening backend' service).tells) →
      Reachable p (World.start p backend printer) w →
      Reachable q (World.start q backend' printer) v →
      w.EndsAtOnce printer → v.EndsAtOnce printer →
      w.printer.sink.written = v.printer.sink.written := by
  refine ⟨fun streams records other now merge merge' => printer.flush_merge now merge merge', ?_⟩
  intro σ τ p q backend backend' w v fresh timed timed' services tells reach reach' ends ends'
  obtain ⟨idle, written⟩ := reach.written_of_timed timed fresh ends
  obtain ⟨idle', written'⟩ := reach'.written_of_timed timed' fresh ends'
  have same : SameStreams (entries false w.queued) (entries false v.queued) := by
    intro service
    have shown := reach.ofService_queued timed ends.user idle p.start service
    have shown' := reach'.ofService_queued timed' ends'.user idle' p.start service
    refine shown.trans (.trans ?_ shown'.symm)
    rw [← services]
    split
    · next listed => rw [Opening.texts, tells service listed, Opening.texts]
    · rfl
  have alike := same.sorts_alike (reach.queued_apart timed ends.user idle)
  have printers : (World.start p backend printer).printer =
      (World.start q backend' printer).printer := by
    simp [World.start, services, timed.once, timed'.once]
  have once : (World.start q backend' printer).printer.follow = false := timed'.once
  rw [written, written', printers, Printer.windowBytes, Printer.windowBytes, once, alike]

/-- Two services that tell of several times, in turns. -/
def twins : Plan Playlist where
  backend := Playlist.backend
  services := ["web", "db"]
  settle := 500
  capacity := queueCapacity 2 2
  start := ⟨1700000000, 0⟩

/-- What they tell. The stream of the first may be slow to open. -/
def twinList (late : Bool) : Playlist where
  streams :=
    [("web", [{
        delays := if late then [.pause 5] else []
        result := some (.ok [{ result := some (.line "2024-01-01T00:00:01Z up") },
          { result := some (.ended (some "2024-01-01T00:00:03Z down")) }]) }]),
      ("db", [{ result := some (.ok [{ result := some (.line "2024-01-01T00:00:02Z ready") },
        { result := some (.ended none) }]) }])]

/-- The end of their run. -/
def twinEnd (late : Bool) : World Playlist :=
  (start twins (twinList late) slow).runFor twins none 100000 ((if late then 21 else 19) + 1)

theorem twins_timed (late : Bool) : twins.Timed (twinList late) where
  once := rfl
  served := by decide
  distinct := by decide
  independent := Playlist.independent
  calm := by cases late <;> decide +kernel
  stamped := by cases late <;> decide +kernel
  apart := by cases late <;> decide +kernel

theorem twinEnd_endsAtOnce (late : Bool) : (twinEnd late).EndsAtOnce slow := by
  cases late <;>
    exact endsAtOnce_of_cancelled _ slow_fresh rfl (by decide +kernel) (by decide +kernel)
      (by decide +kernel) (by decide +kernel)

/-- A service whose stream opens late comes on the queue after the other. -/
theorem twins_print_alike :
    (twinEnd false).queued.map (·.service) = ["web", "web", "db", "db"] ∧
    (twinEnd true).queued.map (·.service) = ["db", "db", "web", "web"] ∧
    (twinEnd false).printer.sink.written = (twinEnd true).printer.sink.written ∧
    ({ slow with buffer := (twinEnd false).queued } : Printer).flush 7 =
      ({ slow with buffer := (twinEnd false).queued.rotate 2 } : Printer).flush 7 := by
  obtain ⟨flushes, runs⟩ := prints_alike slow
  refine ⟨by decide +kernel, by decide +kernel, ?_, ?_⟩
  · exact runs twins twins (twinList false) (twinList true) _ _ slow_fresh (twins_timed false)
      (twins_timed true) rfl (by decide +kernel) (reachable_runFor _ _) (reachable_runFor _ _)
      (twinEnd_endsAtOnce false) (twinEnd_endsAtOnce true)
  · refine flushes (fun service => (twinEnd false).queued.filter (·.service = service)) _ _ 7
      (fun _ => rfl) ?_ (by decide +kernel)
    obtain ⟨a, b, c, d, records, web, web', db, db'⟩ : ∃ a b c d : RawRecord,
        (twinEnd false).queued = [a, b, c, d] ∧ a.service = "web" ∧ b.service = "web" ∧
          c.service = "db" ∧ d.service = "db" := ⟨_, _, _, _, rfl, rfl, rfl, rfl, rfl⟩
    have turned : [a, b, c, d].rotate 2 = [c, d, a, b] := rfl
    intro service
    rw [records, turned]
    by_cases first : "web" = service
    · subst first
      simp [web, web', db, db']
    · by_cases second : "db" = service <;> simp [web, web', db, db', first, second]

end World

end Chronicle
