import Chronicle.Time.Calendar
/-!
# Instants

An instant is a count of seconds since 1970 in UTC and a count of nanoseconds. A leap second is
part of the second before it: its nanoseconds start at a thousand million. `Civil` is a time as it
is written, with the offset of its clock; `Civil.instant?` is the instant it names, if any.
-/

namespace Chronicle

/-- A point in time. -/
structure Instant where
  seconds : Int
  nanos : Nat
deriving DecidableEq, Repr, Inhabited

/-- Nanoseconds in a second. -/
def nanosPerSecond : Nat := 1000000000

namespace Instant

/-- Earlier or equal: by seconds, then by nanoseconds. -/
def le (a b : Instant) : Bool :=
  a.seconds < b.seconds || (a.seconds == b.seconds && a.nanos ≤ b.nanos)

instance : LE Instant := ⟨fun a b => a.le b = true⟩

instance (a b : Instant) : Decidable (a ≤ b) := inferInstanceAs (Decidable (a.le b = true))

theorem le_iff {a b : Instant} :
    a ≤ b ↔ a.seconds < b.seconds ∨ (a.seconds = b.seconds ∧ a.nanos ≤ b.nanos) := by
  show a.le b = true ↔ _
  simp [le]

theorem le_refl (a : Instant) : a ≤ a := le_iff.2 (.inr ⟨rfl, Nat.le_refl _⟩)

theorem le_trans {a b c : Instant} (h : a ≤ b) (k : b ≤ c) : a ≤ c := by
  rw [le_iff] at *; omega

theorem le_total (a b : Instant) : a ≤ b ∨ b ≤ a := by
  simp only [le_iff]; omega

theorem le_antisymm {a b : Instant} (h : a ≤ b) (k : b ≤ a) : a = b := by
  cases a; cases b; simp only [le_iff, Instant.mk.injEq] at *; omega

end Instant

/-- A written time: a date, a time of day and an offset from UTC in minutes. Second 60 is a leap
second. -/
structure Civil where
  date : Date
  hour : Nat
  minute : Nat
  second : Nat
  nanos : Nat
  offset : Int
deriving DecidableEq, Repr

namespace Civil

/-- The first and the last year a time may have. -/
def firstYear : Int := -262143
def lastYear : Int := 262142

/-- Seconds from 1970 to the start of a year. -/
def yearStart (year : Int) : Int := Date.dayNumber ⟨year, 1, 1⟩ * 86400

/-- Every field is in its range, and the offset is less than a day. -/
def Fits (c : Civil) : Prop :=
  firstYear ≤ c.date.year ∧ c.date.year ≤ lastYear ∧ c.date.Exists ∧
    c.hour ≤ 23 ∧ c.minute ≤ 59 ∧ c.second ≤ 60 ∧ c.nanos < nanosPerSecond ∧
    -1440 < c.offset ∧ c.offset < 1440

instance (c : Civil) : Decidable c.Fits := by unfold Fits; infer_instance

/-- Seconds since 1970 of the second a time falls into. A leap second falls into second 59. -/
def seconds (c : Civil) : Int :=
  c.date.dayNumber * 86400 + c.hour * 3600 + c.minute * 60 + min c.second 59 - c.offset * 60

/-- The instant a written time names. -/
def instant (c : Civil) : Instant :=
  ⟨c.seconds, if c.second = 60 then c.nanos + nanosPerSecond else c.nanos⟩

/-- The instant a written time names, if the calendar has it and it is within the years that can
be told apart, in UTC too. -/
def instant? (c : Civil) : Option Instant :=
  if c.Fits ∧ yearStart firstYear ≤ c.seconds ∧ c.seconds < yearStart (lastYear + 1) then
    some c.instant
  else none

end Civil

end Chronicle
