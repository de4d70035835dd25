import Chronicle.Proofs.Ordering
import Chronicle.Printing.Printer
import Mathlib.Data.List.Perm.Basic
/-!
# Interleavings

The records of several services can come in many orders, in each of which every service keeps its
own. Sorting by time brings all of them to one arrangement if no two entries of different services
are of one time: then a moment belongs to a single service, and what stands there is in that
service's order (`SameStreams.sorts_alike`). So a printer writes the same for every interleaving in
its buffer (`Printer.flush_merge`).
-/

namespace Chronicle

namespace Window

variable {as bs : List Entry} {follow : Bool} {service : String}

/-! ## Entries -/

/-- The entries of each service are the same, in the same order. -/
def SameStreams (as bs : List Entry) : Prop :=
  ∀ service, as.filter (·.service = service) = bs.filter (·.service = service)

/-- Entries of different services are of different times. -/
def Apart (entries : List Entry) : Prop :=
  ∀ a ∈ entries, ∀ b ∈ entries, a.service ≠ b.service → a.time ≠ b.time

instance (entries : List Entry) : Decidable (Apart entries) :=
  inferInstanceAs (Decidable (∀ a ∈ entries, ∀ b ∈ entries, _))

theorem SameStreams.symm (same : SameStreams as bs) : SameStreams bs as :=
  fun service => (same service).symm

theorem SameStreams.mem (same : SameStreams as bs) {e : Entry} (mem : e ∈ as) : e ∈ bs := by
  have own : e ∈ as.filter (·.service = e.service) := List.mem_filter.2 ⟨mem, by simp⟩
  exact (List.mem_filter.1 (same e.service ▸ own)).1

theorem SameStreams.apart (same : SameStreams as bs) (apart : Apart as) : Apart bs :=
  fun a ha b hb => apart a (same.symm.mem ha) b (same.symm.mem hb)

/-- What stands at the time of an entry is of its service. -/
theorem Apart.filter_time (apart : Apart as) {e : Entry} (mem : e ∈ as) :
    as.filter (·.time = e.time) =
      (as.filter (·.service = e.service)).filter (·.time = e.time) := by
  rw [List.filter_filter]
  apply List.filter_congr
  intro a ha
  by_cases now : a.time = e.time
  · have own : a.service = e.service := by
      by_contra other
      exact apart a ha e mem other now
    simp [now, own]
  · simp [now]

theorem SameStreams.filter_time (same : SameStreams as bs) (apart : Apart as) (t : Instant) :
    as.filter (·.time = t) = bs.filter (·.time = t) := by
  by_cases empty : ∃ e ∈ as, e.time = t
  · obtain ⟨e, mem, rfl⟩ := empty
    rw [apart.filter_time mem, same, ← (same.apart apart).filter_time (same.mem mem)]
  · have nothing : ∀ e ∈ as, e.time ≠ t := by simpa using empty
    rw [List.filter_eq_nil_iff.2 (by simpa using nothing), List.filter_eq_nil_iff.2]
    intro e mem
    simpa using nothing e (same.symm.mem mem)

/-- A list in order of time that keeps the order at each time is told by the order of each
service alone. -/
theorem SameStreams.sorts_alike {records other : List RawRecord}
    (same : SameStreams (entries follow records) (entries follow other))
    (apart : Apart (entries follow records)) :
    resolve records follow = resolve other follow := by
  apply resolve_inTime.unique resolve_inTime
  intro t
  rw [filter_resolve (inTime_filter_time _ t), filter_resolve (inTime_filter_time _ t),
    same.filter_time apart]

/-! ## Records -/

/-- Some records are an interleaving of what each service has: every service keeps its order. -/
def IsMerge (streams : String → List RawRecord) (records : List RawRecord) : Prop :=
  ∀ service, records.filter (·.service = service) = streams service

theorem filter_entriesOf (r : RawRecord) :
    (entriesOf follow r).filter (·.service = service) =
      if r.service = service then entriesOf follow r else [] := by
  by_cases own : r.service = service
  · rw [if_pos own, List.filter_eq_self]
    intro e mem
    simp [service_of_mem mem, own]
  · rw [if_neg own, List.filter_eq_nil_iff]
    intro e mem
    simp [service_of_mem mem, own]

/-- What a service has to show are the entries of its own records. -/
theorem ofService_eq (service : String) (records : List RawRecord) :
    ofService follow service records = entries follow (records.filter (·.service = service)) := by
  induction records with
  | nil => rfl
  | cons r rest ih =>
    have split : ofService follow service (r :: rest) =
        (entriesOf follow r).filter (·.service = service) ++ ofService follow service rest := by
      simp [ofService, entries]
    rw [split, filter_entriesOf, ih]
    by_cases own : r.service = service <;> simp [own, entries]

variable {streams : String → List RawRecord} {records other : List RawRecord}

theorem IsMerge.sameStreams (merge : IsMerge streams records) (merge' : IsMerge streams other) :
    SameStreams (entries follow records) (entries follow other) := by
  intro service
  have one : ofService follow service records = _ := ofService_eq service records
  have two : ofService follow service other = _ := ofService_eq service other
  rw [merge service] at one
  rw [merge' service] at two
  exact one.trans two.symm

theorem IsMerge.perm (merge : IsMerge streams records) (merge' : IsMerge streams other) :
    records.Perm other := by
  rw [List.perm_iff_count]
  intro r
  -- A record is counted among those of its own service, which are the same in both.
  have own := (merge r.service).trans (merge' r.service).symm
  have counted := congrArg (List.count r) own
  rwa [List.count_filter (by simp), List.count_filter (by simp)] at counted

end Window

open Window

/-- Whatever interleaving of the same streams is in the buffer, the printer does the same when the
window is over, if no two services have entries of one time. -/
theorem Printer.flush_merge (p : Printer) (now : Nat) {streams : String → List RawRecord}
    {records other : List RawRecord} (merge : IsMerge streams records)
    (merge' : IsMerge streams other) (apart : Apart (entries p.follow records)) :
    ({ p with buffer := records } : Printer).flush now =
      ({ p with buffer := other } : Printer).flush now := by
  have perm := merge.perm merge'
  have same := (merge.sameStreams merge').sorts_alike apart
  by_cases empty : records = []
  · obtain rfl : other = [] := List.nil_perm.1 (empty ▸ perm)
    rw [empty]
  · have filled : other ≠ [] := by
      rintro rfl
      exact empty (List.perm_nil.1 perm)
    simp [Printer.flush, Printer.printWindow, empty, filled, same, perm.countP_eq]

end Chronicle
