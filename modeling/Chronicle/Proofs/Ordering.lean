import Chronicle.Window
/-!
# Order by time

`Window.resolve` sorts the entries of a window by time and leaves entries of one time as they came.
So entries that come in order of time are not moved against each other, whatever stands between them
(`filter_resolve`), and lists in order of time are told apart by what they have at each time
(`InTime.unique`). Sorting window by window gives what sorting all records at once gives exactly
when no record is late: `flatMap_resolve_eq_iff`.
-/

namespace Chronicle.Window

variable {follow : Bool} {records : List RawRecord} {windows : List (List RawRecord)}

/-! ## One window -/

/-- Entries stand in order of time. -/
def InTime (entries : List Entry) : Prop := entries.Pairwise fun a b => a.time ≤ b.time

instance (entries : List Entry) : Decidable (InTime entries) :=
  inferInstanceAs (Decidable (entries.Pairwise _))

theorem time_le_trans (a b c : Entry) (ab : a.time.le b.time = true)
    (bc : b.time.le c.time = true) : a.time.le c.time = true :=
  Instant.le_trans ab bc

theorem time_le_total (a b : Entry) : (a.time.le b.time || b.time.le a.time) = true := by
  rw [Bool.or_eq_true]
  exact Instant.le_total a.time b.time

theorem resolve_perm : (resolve records follow).Perm (entries follow records) :=
  List.mergeSort_perm _ _

theorem resolve_inTime : InTime (resolve records follow) :=
  List.pairwise_mergeSort time_le_trans time_le_total _

/-- Entries that come in order of time stay as they are among themselves. -/
theorem filter_resolve {q : Entry → Bool} (inTime : InTime ((entries follow records).filter q)) :
    (resolve records follow).filter q = (entries follow records).filter q := by
  have kept : ((entries follow records).filter q).Sublist (resolve records follow) :=
    List.sublist_mergeSort time_le_trans time_le_total inTime List.filter_sublist
  have chosen :
      ((entries follow records).filter q).Sublist ((resolve records follow).filter q) := by
    simpa using kept.filter q
  exact (chosen.eq_of_length (resolve_perm.filter q).length_eq.symm).symm

/-- Entries of one time are in order. -/
theorem inTime_filter_time (es : List Entry) (t : Instant) : InTime (es.filter (·.time = t)) := by
  apply List.pairwise_of_forall_mem_list
  intro a ha b hb
  have at_a : a.time = t := by simpa using (List.mem_filter.1 ha).2
  have at_b : b.time = t := by simpa using (List.mem_filter.1 hb).2
  rw [at_a, at_b]
  exact Instant.le_refl t

/-! ## Lists in order of time -/

theorem InTime.head_le {a b : Entry} {as bs : List Entry} (h : InTime (b :: bs))
    (same : ∀ t, (a :: as).filter (·.time = t) = (b :: bs).filter (·.time = t)) :
    b.time ≤ a.time := by
  have mem : a ∈ (b :: bs).filter (·.time = a.time) := by
    rw [← same]
    simp
  rcases List.mem_cons.1 (List.mem_filter.1 mem).1 with rfl | later
  · exact Instant.le_refl _
  · exact List.rel_of_pairwise_cons h later

/-- What stands at each time tells a list in order of time. -/
theorem InTime.unique {as bs : List Entry} (ha : InTime as) (hb : InTime bs)
    (same : ∀ t, as.filter (·.time = t) = bs.filter (·.time = t)) : as = bs := by
  induction as generalizing bs with
  | nil =>
    cases bs with
    | nil => rfl
    | cons b bs => simpa using same b.time
  | cons a as ih =>
    cases bs with
    | nil => simpa using same a.time
    | cons b bs =>
      -- The heads are of the least time there is, so they are the first of that time.
      have time : a.time = b.time :=
        Instant.le_antisymm (ha.head_le fun t => (same t).symm) (hb.head_le same)
      obtain ⟨rfl, -⟩ : a = b ∧ _ := by simpa [time] using same b.time
      congr 1
      refine ih ha.of_cons hb.of_cons ?_
      intro t
      have := same t
      by_cases head : a.time = t
      · simpa [head] using this
      · simpa [head] using this

/-! ## Many windows -/

/-- No record is late: none has an entry that is earlier than one of a window before. -/
def NoneLate (follow : Bool) (windows : List (List RawRecord)) : Prop :=
  windows.Pairwise fun earlier later =>
    ∀ a ∈ entries follow earlier, ∀ b ∈ entries follow later, a.time ≤ b.time

instance (follow : Bool) (windows : List (List RawRecord)) : Decidable (NoneLate follow windows) :=
  inferInstanceAs (Decidable (windows.Pairwise _))

/-- Entries that come in order of time stay so among themselves, whatever the windows are. -/
theorem filter_flatMap_resolve {q : Entry → Bool}
    (inTime : InTime ((entries follow windows.flatten).filter q)) :
    (windows.flatMap (resolve · follow)).filter q = (entries follow windows.flatten).filter q := by
  induction windows with
  | nil => rfl
  | cons window rest ih =>
    have split : entries follow (window :: rest).flatten =
        entries follow window ++ entries follow rest.flatten := List.flatMap_append
    rw [split, List.filter_append] at inTime
    obtain ⟨first, others, -⟩ := List.pairwise_append.1 inTime
    rw [split, List.flatMap_cons, List.filter_append, List.filter_append, filter_resolve first,
      ih others]

theorem mem_resolve {e : Entry} : e ∈ resolve records follow ↔ e ∈ entries follow records :=
  resolve_perm.mem_iff

/-- One window after the other is in order exactly when no record is late. -/
theorem inTime_flatMap_iff :
    InTime (windows.flatMap (resolve · follow)) ↔ NoneLate follow windows := by
  simp only [InTime, List.pairwise_flatMap, NoneLate, mem_resolve]
  exact and_iff_right fun _ _ => resolve_inTime

/-- Windows need not be told apart exactly when no record is late. -/
theorem flatMap_resolve_eq_iff :
    windows.flatMap (resolve · follow) = resolve windows.flatten follow ↔
      NoneLate follow windows := by
  rw [← inTime_flatMap_iff]
  constructor
  · intro same
    rw [same]
    exact resolve_inTime
  · intro inTime
    apply inTime.unique resolve_inTime
    intro t
    rw [filter_flatMap_resolve (inTime_filter_time _ t), filter_resolve (inTime_filter_time _ t)]

/-! ## One service of many -/

/-- What a service has to show, in the order in which it came. -/
def ofService (follow : Bool) (service : String) (records : List RawRecord) : List Entry :=
  (entries follow records).filter (·.service = service)

theorem ofService_append (service : String) (records more : List RawRecord) :
    ofService follow service (records ++ more) =
      ofService follow service records ++ ofService follow service more := by
  rw [ofService, entries, List.flatMap_append, List.filter_append]
  rfl

theorem stamped_service (service text : String) (receivedAt : Instant) :
    (stamped service text receivedAt).service = service := by
  unfold stamped
  split <;> rfl

theorem service_of_mem {r : RawRecord} {e : Entry} (mem : e ∈ entriesOf follow r) :
    e.service = r.service := by
  cases r with
  | data service text receivedAt =>
    obtain rfl := List.mem_singleton.1 mem
    exact stamped_service service text receivedAt
  | terminal service trailing receivedAt =>
    rcases List.mem_append.1 mem with piece | notice
    · split at piece
      · split at piece
        · cases piece
        · obtain rfl := List.mem_singleton.1 piece
          exact stamped_service _ _ _
      · cases piece
    · split at notice
      · obtain rfl := List.mem_singleton.1 notice
        rfl
      · cases notice
  | failure => cases mem

/-- A stream that ends shows its last piece and then its notice: after all that came before it from
its service, and before all that came after it. -/
theorem ofService_terminal (service : String) (trailing : Option String) (receivedAt : Instant)
    (before after : List RawRecord) :
    ofService true service (before ++ .terminal service trailing receivedAt :: after) =
      ofService true service before ++ entriesOf false (.terminal service trailing receivedAt) ++
        Entry.exitNotice service receivedAt :: ofService true service after := by
  have own : ofService true service [.terminal service trailing receivedAt] =
      entriesOf true (.terminal service trailing receivedAt) := by
    simp only [ofService, entries, List.flatMap_singleton]
    rw [List.filter_eq_self]
    intro e mem
    exact decide_eq_true (service_of_mem mem)
  rw [← List.singleton_append, ofService_append, ofService_append, own]
  simp [entriesOf]

end Chronicle.Window
