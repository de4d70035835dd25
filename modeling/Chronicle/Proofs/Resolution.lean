import Chronicle.Proofs.Ordering
/-!
# What a window resolves to

`Arrivals` says what the records of a window have to show, in the order in which they came, and
`Resolves` what the window shows of that: the same entries in order of time, and those of one time
as they came. There is exactly one such list, and it is the one `Window.resolve` gives
(`resolves_to_one_list`).
-/

namespace Chronicle

/-! ## Leap seconds -/

/-- An instant within a leap second. It counts as part of the second before it. -/
def Instant.IsLeap (i : Instant) : Prop := nanosPerSecond ≤ i.nanos

/-- A leap second comes after all of the second before it. -/
theorem Instant.le_leap_iff {a b : Instant} (plain : ¬ a.IsLeap) (leap : b.IsLeap) :
    a ≤ b ↔ a.seconds ≤ b.seconds := by
  unfold IsLeap at plain leap
  rw [le_iff]
  omega

/-- A leap second comes before the second after it. -/
theorem Instant.leap_le_iff {a b : Instant} (leap : a.IsLeap) (plain : ¬ b.IsLeap) :
    a ≤ b ↔ a.seconds < b.seconds := by
  unfold IsLeap at plain leap
  rw [le_iff]
  omega

/-- Second 60 is written for a leap second, and nothing else is. -/
theorem Civil.isLeap_instant_iff (c : Civil) (nanos : c.nanos < nanosPerSecond) :
    c.instant.IsLeap ↔ c.second = 60 := by
  unfold Instant.IsLeap instant
  split
  · next leap => simp [leap]
  · next plain => simp [plain, nanos]

namespace Window

variable {follow : Bool} {records : List RawRecord} {arrived es : List Entry}

/-! ## What records have to show -/

/-- What a text of a service shows: its message at its own time, or all of it at the time it was
received. -/
inductive Shows (service text : String) (receivedAt : Instant) : Entry → Prop where
  | stamped {line : Line} (reads : Line.read text = .ok line) :
      Shows service text receivedAt { service, text := line.message, time := line.time }
  | unstamped {fault : LineFault} (fails : Line.read text = .error fault) :
      Shows service text receivedAt { service, text, time := receivedAt }

theorem shows_iff {service text : String} {receivedAt : Instant} {e : Entry} :
    Shows service text receivedAt e ↔ e = stamped service text receivedAt := by
  unfold stamped
  constructor
  · rintro (reads | fails)
    · rw [reads]
    · rw [fails]
  · rintro rfl
    split
    · next reads => exact .stamped reads
    · next fails => exact .unstamped fails

/-- The last piece of a line, if the stream ended in one. -/
inductive ShowsPiece (service : String) (receivedAt : Instant) :
    Option String → List Entry → Prop where
  | none : ShowsPiece service receivedAt none []
  | empty : ShowsPiece service receivedAt (some "") []
  | piece {text : String} {e : Entry} (nonempty : text ≠ "")
      (shows : Shows service text receivedAt e) : ShowsPiece service receivedAt (some text) [e]

/-- What records have to show, one after the other: a line shows one entry, the end of a stream its
last piece and, if streams are followed, a notice, and a failure nothing. -/
inductive Arrivals (follow : Bool) : List RawRecord → List Entry → Prop where
  | nil : Arrivals follow [] []
  | data {service text : String} {receivedAt : Instant} {e : Entry} {rest : List RawRecord}
      {es : List Entry} (shows : Shows service text receivedAt e) (more : Arrivals follow rest es) :
      Arrivals follow (.data service text receivedAt :: rest) (e :: es)
  | terminal {service : String} {trailing : Option String} {receivedAt : Instant}
      {piece : List Entry} {rest : List RawRecord} {es : List Entry}
      (shows : ShowsPiece service receivedAt trailing piece) (more : Arrivals follow rest es) :
      Arrivals follow (.terminal service trailing receivedAt :: rest)
        (piece ++ ((if follow then [Entry.exitNotice service receivedAt] else []) ++ es))
  | failure {service : String} {fault : Fault} {rest : List RawRecord} {es : List Entry}
      (more : Arrivals follow rest es) : Arrivals follow (.failure service fault :: rest) es

theorem showsPiece_iff {service : String} {receivedAt : Instant} {trailing : Option String}
    {piece : List Entry} :
    ShowsPiece service receivedAt trailing piece ↔
      piece = entriesOf false (.terminal service trailing receivedAt) := by
  constructor
  · rintro (_ | _ | ⟨nonempty, shows⟩)
    · rfl
    · rfl
    · simp [entriesOf, nonempty, shows_iff.1 shows]
  · rintro rfl
    cases trailing with
    | none => exact .none
    | some text =>
      by_cases empty : text = ""
      · subst empty
        exact .empty
      · simpa [entriesOf, empty] using ShowsPiece.piece empty (shows_iff.2 rfl)

theorem entriesOf_terminal (follow : Bool) (service : String) (trailing : Option String)
    (receivedAt : Instant) :
    entriesOf follow (.terminal service trailing receivedAt) =
      entriesOf false (.terminal service trailing receivedAt) ++
        if follow then [Entry.exitNotice service receivedAt] else [] := by
  simp [entriesOf]

/-- Records have one thing to show. -/
theorem arrivals_iff : Arrivals follow records arrived ↔ arrived = entries follow records := by
  constructor
  · intro arrivals
    induction arrivals with
    | nil => rfl
    | data shows more ih =>
      rw [ih, shows_iff.1 shows]
      rfl
    | terminal shows more ih =>
      rw [ih, showsPiece_iff.1 shows, entries, entries, List.flatMap_cons,
        entriesOf_terminal follow, List.append_assoc]
    | failure more ih => exact ih
  · rintro rfl
    induction records with
    | nil => exact .nil
    | cons r rest ih =>
      rw [entries, List.flatMap_cons]
      cases r with
      | data service text receivedAt => exact .data (shows_iff.2 rfl) ih
      | terminal service trailing receivedAt =>
        rw [entriesOf_terminal, List.append_assoc]
        exact .terminal (showsPiece_iff.2 rfl) ih
      | failure service fault => exact .failure ih

/-! ## The window -/

/-- What a window shows: all that its records have to show, in order of time, and what belongs to
one time in the order in which it came. -/
structure Resolves (follow : Bool) (records : List RawRecord) (arrived es : List Entry) : Prop where
  arrivals : Arrivals follow records arrived
  perm : es.Perm arrived
  inTime : InTime es
  stable : ∀ t, es.filter (·.time = t) = arrived.filter (·.time = t)

theorem resolves_resolve :
    Resolves follow records (entries follow records) (resolve records follow) where
  arrivals := arrivals_iff.2 rfl
  perm := resolve_perm
  inTime := resolve_inTime
  stable t := filter_resolve (inTime_filter_time _ t)

/-- A window shows one list of entries: all that its records have to show, in order of time, and in
the order of arrival among entries of one time. A leap second, which is written as second 60, stands
after all of the second before it and before all of the second after it. -/
theorem resolves_to_one_list (records : List RawRecord) (follow : Bool) :
    (∃ arrived, Arrivals follow records arrived) ∧
    (∀ es, resolve records follow = es ↔ ∃ arrived, Resolves follow records arrived es) ∧
    (∀ c : Civil, c.nanos < nanosPerSecond → (c.instant.IsLeap ↔ c.second = 60)) ∧
    ∀ leap plain : Instant, leap.IsLeap → ¬ plain.IsLeap →
      (plain ≤ leap ↔ plain.seconds ≤ leap.seconds) ∧
      (leap ≤ plain ↔ leap.seconds < plain.seconds) := by
  refine ⟨⟨_, arrivals_iff.2 rfl⟩, ?_, fun c => c.isLeap_instant_iff, ?_⟩
  · intro es
    constructor
    · rintro rfl
      exact ⟨_, resolves_resolve⟩
    · rintro ⟨arrived, resolves⟩
      obtain rfl := arrivals_iff.1 resolves.arrivals
      apply resolve_inTime.unique resolves.inTime
      intro t
      rw [resolves.stable, resolves_resolve.stable]
  · intro leap plain isLeap notLeap
    exact ⟨Instant.le_leap_iff notLeap isLeap, Instant.leap_le_iff isLeap notLeap⟩

/-- Lines around a leap second, and the end of a stream within a stamp. -/
def yearEnd : List RawRecord :=
  [.data "a" "2017-01-01T00:00:00Z new" ⟨1483228802, 0⟩,
    .data "b" "2016-12-31T23:59:60.5Z leap" ⟨1483228802, 0⟩,
    .terminal "a" (some "2017-01") ⟨1483228803, 0⟩,
    .failure "c" (.other "reset"),
    .data "b" "2016-12-31T23:59:59.9Z old" ⟨1483228802, 0⟩,
    .data "b" "2017-01-01T01:00:00+01:00 tied" ⟨1483228802, 0⟩]

theorem yearEnd_resolves :
    ∃ arrived, Resolves true yearEnd arrived
      [⟨"b", "old", ⟨1483228799, 900000000⟩, none⟩,
        ⟨"b", "leap", ⟨1483228799, 1500000000⟩, none⟩,
        ⟨"a", "new", ⟨1483228800, 0⟩, none⟩,
        ⟨"b", "tied", ⟨1483228800, 0⟩, none⟩,
        ⟨"a", "2017-01", ⟨1483228803, 0⟩, none⟩,
        .exitNotice "a" ⟨1483228803, 0⟩] := by
  obtain ⟨-, one, -⟩ := resolves_to_one_list yearEnd true
  refine (one _).1 ?_
  have arrived : entries true yearEnd =
      [⟨"a", "new", ⟨1483228800, 0⟩, none⟩,
        ⟨"b", "leap", ⟨1483228799, 1500000000⟩, none⟩,
        ⟨"a", "2017-01", ⟨1483228803, 0⟩, none⟩,
        .exitNotice "a" ⟨1483228803, 0⟩,
        ⟨"b", "old", ⟨1483228799, 900000000⟩, none⟩,
        ⟨"b", "tied", ⟨1483228800, 0⟩, none⟩] := by
    decide +kernel
  rw [resolve, arrived]
  simp [List.mergeSort, List.MergeSort.Internal.splitInTwo, Instant.le, Entry.exitNotice]

end Window

end Chronicle
