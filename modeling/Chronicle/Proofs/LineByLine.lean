import Chronicle.Proofs.Courses
import Chronicle.Proofs.Dialogues
import Chronicle.Proofs.Newlines
import Chronicle.Proofs.Rounds
/-!
# Line by line

Each entry that is shown is one line of the output, and no text that comes from a log can make it
more: the texts of log streams have no newlines, and neither the stamp that is taken off nor the
label and its colour that are put on bring one in. So the lines of the output are the entries in
the order in which they were put (`prints_line_by_line`).
-/

namespace Chronicle

/-! ## Entries -/

/-- Nothing of what is shown of an entry has a newline. -/
structure Entry.Unbroken (e : Entry) : Prop where
  service : Chronicle.Unbroken e.service
  text : Chronicle.Unbroken e.text
  wholeLine : ∀ line ∈ e.wholeLine, Chronicle.Unbroken line

/-- Neither the service nor the text of a record has a newline. -/
def RawRecord.Unbroken : RawRecord → Prop
  | .data service text _ => Chronicle.Unbroken service ∧ Chronicle.Unbroken text
  | .terminal service trailing _ =>
    Chronicle.Unbroken service ∧ ∀ text ∈ trailing, Chronicle.Unbroken text
  | .failure _ _ => True

theorem Color.unbroken_foreground (c : Color) : Unbroken c.foreground := by
  cases c <;> simp [foreground, toString, Unbroken, newline_notMem_digits]

namespace Layout

variable {l : Layout} {e : Entry} {es : List Entry}

theorem unbroken_label {service : String} (plain : Unbroken service) :
    Unbroken (l.label service) := by
  unfold label
  split
  · next c _ =>
    have colour := c.unbroken_foreground
    unfold paint style
    split <;> simp_all [Unbroken]
  · exact plain

theorem unbroken_line (separator : Unbroken l.separator) (plain : e.Unbroken) :
    Unbroken (l.line e) := by
  have label : Unbroken (l.label e.service) := unbroken_label plain.service
  unfold line
  split
  · next whole => exact plain.wholeLine _ whole
  · split
    · simp only [unbroken_append]
      exact ⟨⟨⟨⟨label, by decide⟩, separator⟩, by decide⟩, plain.text⟩
    · exact plain.text

theorem lineBytes_eq (l : Layout) (e : Entry) :
    l.lineBytes e = Utf8.bytes (l.line e) ++ [newline] := by
  simp [lineBytes, Utf8.bytes, Utf8.encode_append]
  rfl

/-- The output of some entries has one line for each of them. -/
theorem lines_of_entries (separator : Unbroken l.separator) (plain : ∀ e ∈ es, e.Unbroken) :
    Lines (es.flatMap l.lineBytes) (es.map fun e => Utf8.bytes (l.line e)) [] where
  joined := by
    rw [List.append_nil, List.flatMap_map]
    exact List.flatMap_congr fun e _ => l.lineBytes_eq e
  unbroken := by
    intro line mem
    obtain ⟨e, listed, rfl⟩ := List.mem_map.1 mem
    exact Utf8.newline_notMem_bytes (unbroken_line separator (plain e listed))
  unended := List.not_mem_nil

end Layout

/-! ## Records -/

theorem Line.split_subset {cs token message : List Char} (h : split cs = some (token, message)) :
    message ⊆ cs := by
  fun_induction split cs generalizing token with
  | case1 => cases h
  | case2 rest =>
    obtain ⟨-, rfl⟩ := Prod.mk.inj (Option.some.inj h)
    exact List.subset_cons_self _ _
  | case3 c rest other ih =>
    obtain ⟨⟨token', message'⟩, found, same⟩ := Option.map_eq_some_iff.1 h
    obtain ⟨-, rfl⟩ := Prod.mk.inj same
    exact List.subset_cons_of_subset _ (ih found)

theorem Line.unbroken_of_read {raw : String} {line : Line} (h : Line.read raw = .ok line)
    (plain : Unbroken raw) : Unbroken line.message := by
  unfold read at h
  split at h
  · cases h
  · next token message found =>
    split at h
    · cases h
    · obtain rfl := Except.ok.inj h
      intro mem
      rw [String.toList_ofList] at mem
      exact plain (split_subset found mem)

namespace Window

variable {follow : Bool} {r : RawRecord} {e : Entry}

theorem unbroken_stamped {service text : String} (plain : Unbroken service)
    (unbroken : Unbroken text) (receivedAt : Instant) :
    (stamped service text receivedAt).Unbroken := by
  unfold stamped
  split
  · next line read => exact ⟨plain, Line.unbroken_of_read read unbroken, by simp⟩
  · exact ⟨plain, unbroken, by simp⟩

theorem unbroken_exitNotice {service : String} (plain : Unbroken service) (time : Instant) :
    (Entry.exitNotice service time).Unbroken := by
  refine ⟨plain, (by decide : Unbroken "container exited"), ?_⟩
  intro line whole
  obtain rfl := Option.some.inj whole
  simp only [unbroken_append]
  exact ⟨⟨by decide, plain⟩, by decide⟩

theorem unbroken_of_mem (plain : r.Unbroken) (mem : e ∈ entriesOf follow r) : e.Unbroken := by
  cases r with
  | data service text receivedAt =>
    obtain rfl := List.mem_singleton.1 mem
    exact unbroken_stamped plain.1 plain.2 receivedAt
  | failure => cases mem
  | terminal service trailing receivedAt =>
    rcases List.mem_append.1 mem with piece | notice
    · split at piece
      · next text =>
        split at piece
        · cases piece
        · obtain rfl := List.mem_singleton.1 piece
          exact unbroken_stamped plain.1 (plain.2 text rfl) receivedAt
      · cases piece
    · split at notice
      · obtain rfl := List.mem_singleton.1 notice
        exact unbroken_exitNotice plain.1 receivedAt
      · cases notice

end Window

theorem Courier.unbroken_recordOf {service : String} {o : Outcome} (plain : Unbroken service)
    (unbroken : o.Unbroken) (receivedAt : Instant) :
    (recordOf service receivedAt o).Unbroken := by
  cases o with
  | line text => exact ⟨plain, unbroken⟩
  | ended trailing => exact ⟨plain, unbroken⟩
  | failed fault => trivial

/-! ## Printers -/

/-- Since `p₀` the printer has taken these records, and its output are the entries of its windows,
each window in order of time and each entry one line. -/
def Printer.PrintsLines (p₀ p : Printer) (taken : List RawRecord) : Prop :=
  ∃ windows out, Printer.Course p₀ windows taken p ∧
    windows.flatten ++ p.buffer = taken.filter readable ∧
    p.sink.written = p₀.sink.written ++ out ∧
    Lines out ((p₀.shown windows).map fun e => Utf8.bytes (p₀.layout.line e)) []

theorem Session.Run.prints_lines {s₀ s : Session} {offered taken : List RawRecord}
    (fresh : s₀.printer.Fresh) (separator : Unbroken s₀.printer.layout.separator)
    (run : Session.Run s₀ offered taken s) (plain : ∀ r ∈ offered, r.Unbroken) :
    Printer.PrintsLines s₀.printer s.printer taken := by
  obtain ⟨windows, course⟩ := run.course
  have account := course.account fresh
  refine ⟨windows, _, course, account.split, account.written fresh, ?_⟩
  apply Layout.lines_of_entries separator
  intro e shown
  obtain ⟨window, listed, resolved⟩ := List.mem_flatMap.1 shown
  obtain ⟨r, mem, entry⟩ := List.mem_flatMap.1 (Window.mem_resolve.1 resolved)
  -- The record is one of those that were offered.
  have gathered : r ∈ taken.filter Printer.readable := by
    rw [← account.split]
    exact List.mem_append_left _ (List.mem_flatten.2 ⟨window, listed, mem⟩)
  have offered_r : r ∈ offered := by
    rw [(run.kept fresh).queue]
    exact List.mem_append_left _ (List.mem_filter.1 gathered).1
  exact Window.unbroken_of_mem (plain r offered_r) entry

/-! ## Runs -/

/-- No outcome of the script has a newline in its text. -/
def Script.Unbroken (script : Script) : Prop :=
  ∀ read ∈ script, ∀ o ∈ read.result, o.Unbroken

theorem LogStream.script_unbroken (s : LogStream) (atEnd : List Delay) :
    (s.script atEnd).Unbroken := by
  intro read mem o result
  rcases List.mem_append.1 mem with told | last
  · obtain ⟨o', listed, rfl⟩ := List.mem_map.1 told
    obtain rfl := Option.some.inj result
    exact readMany_unbroken listed
  · obtain rfl := List.mem_singleton.1 last
    cases result

/-- Every stream that is opened reads the log in some body. -/
def Backend.ReadsLogs {σ : Type} (b : Backend σ) : Prop :=
  ∀ s service options script, (b.openStream s service options).1.result = some (.ok script) →
    ∃ body terminal atEnd, script = (LogStream.start body terminal).script atEnd

theorem Client.backend_readsLogs : Client.backend.ReadsLogs := by
  intro c service options script opened
  obtain ⟨result, found, same⟩ := Option.map_eq_some_iff.1 opened
  match result with
  | .ok (stream, atEnd) =>
    obtain rfl := Except.ok.inj same
    have opens : (openLog service options).Yields c (.ok (stream, atEnd)) _ := ⟨found, rfl⟩
    obtain ⟨container, _, -, opens⟩ := Asking.Yields.of_bind opens
    obtain ⟨content, _, -, opens⟩ := Asking.Yields.of_bind opens
    obtain ⟨rfl, rfl⟩ := Prod.mk.inj opens.of_pure
    exact ⟨_, _, _, rfl⟩

namespace Follower

/-- What a follower holds or is about to read has no newline. -/
def Unbroken (f : Follower) : Prop :=
  match f.stage with
  | .carrying (.opening e) => ∀ script, e.call.result = some (.ok script) → script.Unbroken
  | .carrying (.between rest) => rest.Unbroken
  | .carrying (.reading e rest) => (∀ o ∈ e.call.result, o.Unbroken) ∧ rest.Unbroken
  | .carrying (.sending o _ rest) => o.Unbroken ∧ rest.Unbroken
  | _ => True

end Follower

namespace World

variable {σ : Type} {p : Plan σ} {w : World σ} {f f' : Follower} {deeds : List Deed}

theorem unbroken_restStage : ({ f with stage := restStage p w } : Follower).Unbroken := by
  by_cases follow : p.follow = true <;> simp [restStage, Follower.Unbroken, follow]

theorem Turn.unbroken (turn : Turn p w f deeds f') (logs : p.backend.ReadsLogs)
    (plain : Unbroken f.service) (unbroken : f.Unbroken) :
    f'.Unbroken ∧ ∀ d ∈ deeds, ∀ r ∈ d.record?, r.Unbroken := by
  cases turn with
  | opens ready =>
    refine ⟨?_, by simp [Deed.record?]⟩
    intro script opened
    obtain ⟨body, terminal, atEnd, rfl⟩ := logs _ _ _ _ opened
    exact LogStream.script_unbroken _ atEnd
  | works at_work quiet =>
    refine ⟨?_, by simp⟩
    cases quiet with
    | opening goes => simpa [Follower.Unbroken, at_work, Errand.result_of_goes goes] using unbroken
    | opened returns =>
      simp only [Follower.Unbroken, at_work] at unbroken
      exact unbroken _ (Errand.result_of_returns returns)
    | @asks rest =>
      simp only [Follower.Unbroken, at_work] at unbroken ⊢
      cases rest with
      | nil => exact ⟨by simp [Script.next], unbroken⟩
      | cons read rest => exact List.forall_mem_cons.1 unbroken
    | reading goes => simpa [Follower.Unbroken, at_work, Errand.result_of_goes goes] using unbroken
  | misses => exact ⟨trivial, by simp [Deed.record?]⟩
  | reads at_work returns =>
    simp only [Follower.Unbroken, at_work] at unbroken
    exact ⟨⟨unbroken.1 _ (Errand.result_of_returns returns), unbroken.2⟩, by simp [Deed.record?]⟩
  | sends at_work =>
    simp only [Follower.Unbroken, at_work] at unbroken
    exact ⟨unbroken.2, by simpa [Deed.record?, RawRecord.Unbroken] using ⟨plain, unbroken.1⟩⟩
  | ends at_work =>
    simp only [Follower.Unbroken, at_work] at unbroken
    exact ⟨unbroken_restStage,
      by simpa [Deed.record?, RawRecord.Unbroken] using ⟨plain, unbroken.1⟩⟩
  | breaks => exact ⟨trivial, by simp [Deed.record?, RawRecord.Unbroken]⟩
  | reports => exact ⟨trivial, by simp [Deed.record?, RawRecord.Unbroken]⟩
  | stops active cancelled rests =>
    refine ⟨?_, by simp [Deed.record?]⟩
    rcases rests with rfl | ⟨-, rfl⟩
    · trivial
    · exact unbroken_restStage
  | asks => exact ⟨trivial, by simp [Deed.record?]⟩
  | lingers => exact ⟨trivial, by simp⟩
  | leaves => exact ⟨trivial, by simp⟩
  | resumes => exact ⟨trivial, by simp [Deed.record?]⟩
  | loses => refine ⟨trivial, ?_⟩; split <;> simp [Deed.record?]

/-- No record that is put on the queue has a newline in its text. -/
theorem Reachable.unbroken_queued {backend : σ} {printer : Printer} (logs : p.backend.ReadsLogs)
    (plain : ∀ service ∈ p.services, Unbroken service)
    (reach : Reachable p (World.start p backend printer) w) : ∀ r ∈ w.queued, r.Unbroken := by
  have each : ∀ {i f}, w.followers[i]? = some f → Unbroken f.service ∧ f.Unbroken ∧
      ∀ n ∈ w.notesOf i, ∀ r ∈ n.queued?, r.Unbroken := by
    refine Reachable.each_follower (Q := fun _ => True) (P := fun _ notes f =>
      Unbroken f.service ∧ f.Unbroken ∧ ∀ n ∈ notes, ∀ r ∈ n.queued?, r.Unbroken)
      (fun _ _ => trivial) ?_ ?_ reach trivial
    · intro i f at_i
      obtain ⟨served, fresh⟩ := follower_at_start at_i
      refine ⟨plain _ (List.mem_of_getElem? served), fresh ▸ trivial, ?_⟩
      simp [notesOf, World.start]
    · intro v i f deeds f' _ _ _ held turn
      obtain ⟨service, unbroken, queued⟩ := held
      obtain ⟨unbroken', queues⟩ := turn.unbroken logs service unbroken
      refine ⟨turn.service ▸ service, unbroken', List.forall_mem_append.2 ⟨queued, ?_⟩⟩
      intro n noted r record
      obtain ⟨d, did, rfl⟩ := List.mem_map.1 noted
      exact queues d did r record
  intro r mem
  obtain ⟨n, noted, queued⟩ := List.mem_filterMap.1 mem
  rw [List.mem_reverse] at noted
  have at_n := List.getElem?_eq_getElem (reach.note_bound rfl n noted)
  exact (each at_n).2.2 n (by simpa [notesOf] using noted) r queued

end World

/-- One record, one line. No text that is read from a log stream has a newline, whatever its body
is and however it comes in. So if the services and the separator have none, a printer writes one
line for each entry, in the order of the entries, of all records that were made of such readings.
And a run whose streams read logs queues no other records. -/
theorem prints_line_by_line :
    (∀ (body : Body) (terminal : Bool) (k : Nat) (text : String),
      (LogStream.start body terminal).outcome? k = some (.line text) ∨
        (LogStream.start body terminal).outcome? k = some (.ended (some text)) →
      Unbroken text) ∧
    (∀ (s₀ s : Session) (offered taken : List RawRecord), s₀.printer.Fresh →
      Unbroken s₀.printer.layout.separator → Session.Run s₀ offered taken s →
      (∀ r ∈ offered, r.isFailure = true ∨ ∃ service body terminal k o receivedAt,
        Unbroken service ∧ (LogStream.start body terminal).outcome? k = some o ∧
          r = Courier.recordOf service receivedAt o) →
      Printer.PrintsLines s₀.printer s.printer taken) ∧
    ∀ {σ : Type} (p : Plan σ) (backend : σ) (printer : Printer) (w : World σ),
      p.backend.ReadsLogs → (∀ service ∈ p.services, Unbroken service) → printer.Fresh →
      Unbroken printer.layout.separator →
      World.Reachable p (World.start p backend printer) w →
      ∃ taken, w.queued = taken ++ w.queue ∧
        Printer.PrintsLines (World.start p backend printer).printer w.printer taken := by
  refine ⟨?_, ?_, ?_⟩
  · intro body terminal k text read
    rcases read with line | ended
    · exact LogStream.outcome?_unbroken line
    · exact LogStream.outcome?_unbroken ended text rfl
  · intro s₀ s offered taken fresh separator run told
    refine run.prints_lines fresh separator ?_
    intro r mem
    rcases told r mem with failure | ⟨service, body, terminal, k, o, receivedAt, plain, read, rfl⟩
    · cases r with
      | failure => trivial
      | data | terminal => cases failure
    · exact Courier.unbroken_recordOf plain (LogStream.outcome?_unbroken read) receivedAt
  · intro σ p backend printer w logs plain fresh separator reach
    obtain ⟨taken, run⟩ := reach.session rfl
    have fresh : ((World.start p backend printer).session p).printer.Fresh :=
      World.fresh_start fresh
    exact ⟨taken, (run.kept fresh).queue,
      run.prints_lines fresh separator (reach.unbroken_queued logs plain)⟩

/-- A log that tries to speak for another service, and breaks off inside a character. -/
def forgedLog : Body := { pieces := [.data (Utf8.bytes "one\ndb › two\n" ++ [0xE2, 0x80])] }

/-- The records of the log are queued when the run is cancelled. -/
def forgedSession : Session where
  printer := .brisk
  capacity := 8
  queue := [.data "web" "one" ⟨1, 0⟩, .data "web" "db › two" ⟨1, 0⟩,
    .terminal "web" (some "\uFFFD") ⟨1, 0⟩]
  cancelled := true

/-- A daemon with one container, whose terminal that log is. -/
def forging : Connection where
  endpoint := .network "localhost:2375"
  daemon := {
    containers := [("web", {
      inspect := [{
        answer := .response {
          status := 200
          body := .ofBytes (Utf8.bytes "\x7b\"Config\":\x7b\"Tty\":true\x7d\x7d") 0 } }]
      logs := [{ answer := .response { status := 200, body := forgedLog } }]
    })]
  }

/-- A run that shows the log. -/
def forged : Plan Connection where
  backend := Client.backend
  services := ["web"]
  settle := 500
  capacity := queueCapacity 1 8
  start := ⟨1700000000, 0⟩

theorem forged_prints_line_by_line :
    (Unbroken "db › two" ∧ Unbroken "\uFFFD") ∧
    (∃ s : Session, Session.Run forgedSession forgedSession.queue forgedSession.queue s ∧
      Printer.PrintsLines .brisk s.printer forgedSession.queue) ∧
    ∃ w : World Connection, w.queued = [.data "web" "one" ⟨1700000000, 0⟩] ∧
      World.Reachable forged (World.start forged forging World.slow) w ∧
      ∃ taken, w.queued = taken ++ w.queue ∧
        Printer.PrintsLines (World.start forged forging World.slow).printer w.printer taken := by
  have first : (LogStream.start forgedLog true).outcome? 0 = some (.line "one") := by
    decide +kernel
  have second : (LogStream.start forgedLog true).outcome? 1 = some (.line "db › two") := by
    decide +kernel
  have third : (LogStream.start forgedLog true).outcome? 2 = some (.ended (some "\uFFFD")) := by
    decide +kernel
  obtain ⟨reads, sessions, runs⟩ := prints_line_by_line
  refine ⟨⟨reads _ _ 1 _ (.inl second), reads _ _ 2 _ (.inr third)⟩, ?_, ?_⟩
  · have begins : Session.Run forgedSession forgedSession.queue [] forgedSession := .start
    have run := begins.works rfl (Printer.next_cancelled ..)
    refine ⟨_, run, sessions _ _ _ _ Printer.brisk_fresh (by decide) run ?_⟩
    simp only [forgedSession, List.forall_mem_cons]
    exact ⟨.inr ⟨"web", _, _, 0, _, ⟨1, 0⟩, by decide, first, rfl⟩,
      .inr ⟨"web", _, _, 1, _, ⟨1, 0⟩, by decide, second, rfl⟩,
      .inr ⟨"web", _, _, 2, _, ⟨1, 0⟩, by decide, third, rfl⟩, by simp⟩
  · have reach : World.Reachable forged (World.start forged forging World.slow)
        ((World.start forged forging World.slow).runFor forged none 100000 8) :=
      World.reachable_runFor 8 _
    exact ⟨_, by decide +kernel, reach, runs _ _ _ _ Client.backend_readsLogs (by decide)
      World.slow_fresh (by decide) reach⟩

end Chronicle
