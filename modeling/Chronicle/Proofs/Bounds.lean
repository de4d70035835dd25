import Chronicle.Docker.Container
import Chronicle.Proofs.Resolution
import Chronicle.Proofs.Targets
/-!
# Times in a query are read back

The path of a request for a log carries up to two times: until when and since when. Each is whole
seconds, a point and nine digits of nanoseconds, and is read back as the instant that it was written
for. A leap second is the exception, because its nanoseconds have ten digits
(`Request.bounds_are_read_back`).
-/

namespace Chronicle

namespace Decimal

theorem padded_ne_nil (width n : Nat) : padded width n ≠ [] := by
  simp [padded, digits]

/-- A row of digits is read as the number it was written for, whatever its width. -/
theorem natural?_padded (width n : Nat) : natural? (padded width n) = some n := by
  have digit : (padded width n).all isDigit = true :=
    List.all_eq_true.2 fun _ mem => isDigit_padded mem
  rw [natural?, if_pos ⟨padded_ne_nil width n, digit⟩, value_padded]

theorem natural?_digits (n : Nat) : natural? (digits n) = some n := by
  have narrow : padded 0 n = digits n := by simp [padded]
  rw [← narrow, natural?_padded]

/-- A number is as wide as it is meant to be if it is not too large. -/
theorem length_padded_eq_iff {width n : Nat} (wide : 0 < width) :
    (padded width n).length = width ↔ n < Nat.pow 10 width := by
  refine ⟨fun exact_width => ?_, length_padded wide⟩
  have short : (digits n).length ≤ width := by
    simp only [padded, List.length_append, List.length_replicate] at exact_width
    omega
  exact (Nat.length_toDigits_le_iff (by decide) wide).1 short

/-- Reads an integer with or without a minus sign. -/
def integer? : List Char → Option Int
  | '-' :: ds => (natural? ds).map fun n : Nat => -(n : Int)
  | ds => (natural? ds).map fun n : Nat => (n : Int)

theorem integer?_signed (i : Int) : integer? (signed i) = some i := by
  unfold signed
  split
  · next negative =>
    have back : -(i.natAbs : Int) = i := by omega
    rw [integer?, natural?_digits, Option.map_some, back]
  · next notNegative =>
    have back : (i.natAbs : Int) = i := by omega
    rw [integer?, natural?_digits, Option.map_some, back]
    -- What begins with a minus sign is no row of digits.
    intro ds same
    have minus : '-' ∈ padded 0 i.natAbs := by simp [padded, same]
    exact absurd (isDigit_padded minus) (by decide)

theorem point_notMem_signed (i : Int) : '.' ∉ signed i := by
  have digits (n : Nat) : '.' ∉ digits n := by
    intro mem
    have row : '.' ∈ padded 0 n := by simpa [padded] using mem
    exact absurd (isDigit_padded row) (by decide)
  unfold signed
  split
  · simp [digits]
  · exact digits _

end Decimal

namespace Request

/-! ## One time -/

/-- Reads whole seconds, a point and exactly nine digits of nanoseconds. -/
def readBound? (s : List Char) : Option Instant := do
  let seconds ← Decimal.integer? (s.takeWhile (· != '.'))
  let fraction := (s.dropWhile (· != '.')).tail
  if fraction.length = 9 then
    let nanos ← Decimal.natural? fraction
    return ⟨seconds, nanos⟩
  else none

/-- All that reading makes of what is written for a time depends on how wide the fraction is. -/
theorem readBound?_bound (i : Instant) :
    readBound? (bound i) = if (Decimal.padded 9 i.nanos).length = 9 then some i else none := by
  obtain ⟨whole, part⟩ := Target.span_at (Decimal.point_notMem_signed i.seconds)
    ('.' :: Decimal.padded 9 i.nanos) (.inr rfl)
  rw [readBound?, bound, whole, part, Decimal.integer?_signed, List.tail_cons]
  by_cases nine : (Decimal.padded 9 i.nanos).length = 9
  · simp [nine, Decimal.natural?_padded]
  · simp [nine]

/-- What is written for a time is read as that time, unless it is in a leap second. -/
theorem readBound?_eq_some_iff (i : Instant) : readBound? (bound i) = some i ↔ ¬ i.IsLeap := by
  have width : (Decimal.padded 9 i.nanos).length = 9 ↔ ¬ i.IsLeap := by
    rw [Decimal.length_padded_eq_iff (by decide), Instant.IsLeap, Nat.not_le]
    rfl
  rw [readBound?_bound, ← width]
  simp

/-! ## The times of a request -/

/-- The values that a path has for a key. -/
def asked (path : String) (key : String) : List (List Char) :=
  (Target.read path.toList).parameters.filterMap fun p =>
    if p.1 = key.toList then some p.2 else none

section Logs

variable (name : String) (options : StreamOptions) (started : Option Instant)

/-- The keys of what is asked for in a log, each with its values. -/
def logValues : List (String × List (List Char)) :=
  [("stdout", [['1']]), ("stderr", [['1']]), ("timestamps", [['1']]),
    ("follow", [if options.follow ∧ ¬ options.previous then ['1'] else ['0']]),
    ("until", (if options.previous then started else none).toList.map bound),
    ("since", options.since.toList.map bound)]

theorem logParameters_eq : logParameters options started =
    (logValues options started).flatMap fun e => e.2.map (e.1.toList, ·) := by
  simp [logParameters, rangeParameters, logValues, Function.comp_def]

/-- What a path asks for under one key is all that its request means by that key. -/
theorem asked_logs (key : String) : asked (logs name options started).path key =
    (logValues options started).flatMap fun e => if key = e.1 then e.2 else [] := by
  rw [asked, read_path, target, logParameters_eq, List.filterMap_flatMap]
  congr 1
  funext e
  rw [List.filterMap_map]
  show e.2.filterMap (fun v => if e.1.toList = key.toList then some v else none) = _
  by_cases same : key = e.1
  · simp [same]
  · have other : e.1 ≠ key := Ne.symm same
    simp [same, other, String.toList_inj]

theorem asked_until : asked (logs name options started).path "until" =
    (if options.previous then started else none).toList.map bound := by
  simp [asked_logs, logValues]

theorem asked_since : asked (logs name options started).path "since" =
    options.since.toList.map bound := by
  simp [asked_logs, logValues]

theorem asked_follow : asked (logs name options started).path "follow" =
    [if options.follow ∧ ¬ options.previous then ['1'] else ['0']] := by
  simp [asked_logs, logValues]

end Logs

/-- The path of a request for a log asks until when exactly if it is about an earlier run and the
start of the last one is known, since when exactly if that is given, and to be followed exactly if
that is wanted of the last run. There is one value for each of these, and a time is read back from
it as the very same instant exactly if it is not in a leap second. -/
theorem bounds_are_read_back (name : String) (options : StreamOptions) (c : Container) :
    (asked (logs name options c.started).path "until" ≠ [] ↔
      options.previous = true ∧ c.started.isSome = true) ∧
    (asked (logs name options c.started).path "since" ≠ [] ↔ options.since.isSome = true) ∧
    (asked (logs name options c.started).path "follow" = [['1']] ↔
      options.follow = true ∧ options.previous = false) ∧
    (∀ time, options.previous = true → c.started = some time →
      ∃ value, asked (logs name options c.started).path "until" = [value] ∧
        (readBound? value = some time ↔ ¬ time.IsLeap)) ∧
    ∀ time, options.since = some time →
      ∃ value, asked (logs name options c.started).path "since" = [value] ∧
        (readBound? value = some time ↔ ¬ time.IsLeap) := by
  rw [asked_until, asked_since, asked_follow]
  refine ⟨?_, ?_, ?_, ?_, ?_⟩
  · cases options.previous <;> cases c.started <;> simp
  · cases options.since <;> simp
  · cases options.previous <;> cases options.follow <;> simp
  · intro time previous started
    exact ⟨bound time, by simp [previous, started], readBound?_eq_some_iff time⟩
  · intro time since
    exact ⟨bound time, by simp [since], readBound?_eq_some_iff time⟩

/-- The start of a run before midnight of the new year. -/
def yearEndStart (second : String) : Container where
  status := "running"
  running := true
  startedAt := "2016-12-31T23:59:" ++ second ++ "Z"

theorem yearEnd_bounds_are_read_back :
    (yearEndStart "59.25").started = some ⟨1483228799, 250000000⟩ ∧
    (∃ value, asked (logs "web" { previous := true, since := some ⟨-1, 5⟩ }
        (yearEndStart "59.25").started).path "until" = [value] ∧
      readBound? value = some ⟨1483228799, 250000000⟩) ∧
    ∃ value, asked (logs "web" { previous := true, since := some ⟨-1, 5⟩ }
        (yearEndStart "59.25").started).path "since" = [value] ∧
      readBound? value = some ⟨-1, 5⟩ := by
  have started : (yearEndStart "59.25").started = some ⟨1483228799, 250000000⟩ := by
    decide +kernel
  obtain ⟨-, -, -, ends, begins⟩ := bounds_are_read_back "web"
    { previous := true, since := some ⟨-1, 5⟩ } (yearEndStart "59.25")
  obtain ⟨last, asksUntil, back⟩ := ends _ rfl started
  obtain ⟨first, asksSince, back'⟩ := begins _ rfl
  have plain : ¬ Instant.IsLeap ⟨1483228799, 250000000⟩ := by simp [Instant.IsLeap, nanosPerSecond]
  have plain' : ¬ Instant.IsLeap ⟨-1, 5⟩ := by simp [Instant.IsLeap, nanosPerSecond]
  exact ⟨started, ⟨last, asksUntil, back.2 plain⟩, first, asksSince, back'.2 plain'⟩

/-- A container that started in a leap second: the time of that is written, with ten digits behind
the point, and it is not read back. -/
theorem leap_second_is_not_read_back :
    (yearEndStart "60.5").started = some ⟨1483228799, 1500000000⟩ ∧
    asked (logs "web" { previous := true } (yearEndStart "60.5").started).path "until" =
      ["1483228799.1500000000".toList] ∧
    readBound? "1483228799.1500000000".toList = none := by
  decide +kernel

end Request

end Chronicle
