import Chronicle.Time.Instant
/-!
# Counting days

`Date.ofDay` counts the days of the calendar one after the other, forwards and backwards from
1970-01-01, and `Date.dayNumber` is where a day stands in that count. `Instant.civil` is what a
clock with some offset shows at an instant, and that names the instant again:
`Instant.instant?_civil`.
-/

namespace Chronicle

/-! ## One day after the other -/

theorem daysInMonth_pos (year : Int) (month : Nat) : 1 ≤ daysInMonth year month := by
  unfold daysInMonth
  split <;> try split
  all_goals omega

theorem daysInMonth_le (year : Int) (month : Nat) : daysInMonth year month ≤ 31 := by
  unfold daysInMonth
  split <;> try split
  all_goals omega

/-- How many days a year has. -/
def daysInYear (year : Int) : Nat := if isLeapYear year then 366 else 365

namespace Date

/-- The day after this one. -/
def next (d : Date) : Date :=
  if d.day < daysInMonth d.year d.month then ⟨d.year, d.month, d.day + 1⟩
  else if d.month < 12 then ⟨d.year, d.month + 1, 1⟩
  else ⟨d.year + 1, 1, 1⟩

/-- The day before this one. -/
def previous (d : Date) : Date :=
  if 1 < d.day then ⟨d.year, d.month, d.day - 1⟩
  else if 1 < d.month then ⟨d.year, d.month - 1, daysInMonth d.year (d.month - 1)⟩
  else ⟨d.year - 1, 12, 31⟩

/-- So many days after 1970-01-01. -/
def after : Nat → Date
  | 0 => ⟨1970, 1, 1⟩
  | days + 1 => (after days).next

/-- So many days before 1970-01-01. -/
def before : Nat → Date
  | 0 => ⟨1970, 1, 1⟩
  | days + 1 => (before days).previous

/-- The day with a number. -/
def ofDay : Int → Date
  | .ofNat days => after days
  | .negSucc days => before (days + 1)

variable {d : Date}

theorem Exists.next (h : d.Exists) : d.next.Exists := by
  obtain ⟨lowMonth, highMonth, lowDay, highDay⟩ := h
  unfold Date.next
  split
  · exact ⟨lowMonth, highMonth, Nat.le_add_left 1 d.day, by simpa⟩
  · split
    · next inYear => exact ⟨Nat.le_add_left 1 d.month, inYear, Nat.le_refl 1, daysInMonth_pos _ _⟩
    · exact ⟨Nat.le_refl 1, Nat.le_add_left 1 11, Nat.le_refl 1, daysInMonth_pos _ _⟩

theorem Exists.previous (h : d.Exists) : d.previous.Exists := by
  obtain ⟨lowMonth, highMonth, lowDay, highDay⟩ := h
  unfold Date.previous
  split
  · exact ⟨lowMonth, highMonth, by simp; omega, by simp; omega⟩
  · split
    · exact ⟨by simp; omega, by simp; omega, daysInMonth_pos _ _, Nat.le_refl _⟩
    · exact ⟨Nat.le_add_left 1 11, Nat.le_refl 12, Nat.le_add_left 1 30, Nat.le_refl 31⟩

theorem next_previous (h : d.Exists) : d.previous.next = d := by
  obtain ⟨lowMonth, highMonth, lowDay, highDay⟩ := h
  obtain ⟨year, month, day⟩ := d
  simp only at *
  unfold Date.previous
  split
  · have inMonth : day - 1 < daysInMonth year month := by omega
    have back : day - 1 + 1 = day := by omega
    simp [Date.next, inMonth, back]
  · obtain rfl : day = 1 := by simp_all; omega
    split
    · have inYear : month - 1 < 12 := by omega
      have back : month - 1 + 1 = month := by omega
      simp [Date.next, inYear, back]
    · obtain rfl : month = 1 := by simp_all; omega
      simp [Date.next, daysInMonth]

/-! ## The number of a day -/

theorem daysBeforeYear_succ (year : Int) :
    daysBeforeYear (year + 1) = daysBeforeYear year + daysInYear year := by
  unfold daysBeforeYear daysInYear isLeapYear
  simp only [Bool.and_eq_true, Bool.or_eq_true, beq_iff_eq, bne_iff_ne]
  split <;> omega

theorem daysBeforeMonth_one (year : Int) : daysBeforeMonth year 1 = 0 := rfl

theorem daysBeforeMonth_succ (year : Int) {month : Nat} (low : 1 ≤ month) :
    daysBeforeMonth year (month + 1) = daysBeforeMonth year month + daysInMonth year month := by
  obtain ⟨month, rfl⟩ := Nat.exists_eq_add_of_le' low
  rfl

/-- The year ends with its twelfth month. -/
theorem daysBeforeMonth_thirteen (year : Int) : daysBeforeMonth year 13 = daysInYear year := by
  cases leap : isLeapYear year <;> simp [daysBeforeMonth, daysInMonth, daysInYear, leap]

theorem dayNumber_next (h : d.Exists) : d.next.dayNumber = d.dayNumber + 1 := by
  obtain ⟨lowMonth, highMonth, lowDay, highDay⟩ := h
  obtain ⟨year, month, day⟩ := d
  simp only at *
  have whole := daysBeforeMonth_succ year lowMonth
  simp only [Date.next]
  split
  · simp only [dayNumber]
    omega
  · split
    · simp only [dayNumber]
      omega
    · obtain rfl : month = 12 := by omega
      rw [daysBeforeMonth_thirteen] at whole
      have years := daysBeforeYear_succ year
      simp only [dayNumber, daysBeforeMonth_one]
      omega

theorem dayNumber_previous (h : d.Exists) : d.previous.dayNumber = d.dayNumber - 1 := by
  have back := dayNumber_next h.previous
  rw [next_previous h] at back
  omega

theorem exists_after (days : Nat) : (after days).Exists ∧ (after days).dayNumber = days := by
  induction days with
  | zero => exact ⟨by decide, by decide⟩
  | succ days ih => exact ⟨ih.1.next, by rw [after, dayNumber_next ih.1, ih.2]; rfl⟩

theorem exists_before (days : Nat) : (before days).Exists ∧ (before days).dayNumber = -days := by
  induction days with
  | zero => exact ⟨by decide, by decide⟩
  | succ days ih => exact ⟨ih.1.previous, by rw [before, dayNumber_previous ih.1, ih.2]; omega⟩

/-- Every number is that of a day of the calendar. -/
theorem exists_ofDay (n : Int) : (ofDay n).Exists ∧ (ofDay n).dayNumber = n := by
  cases n with
  | ofNat days => exact exists_after days
  | negSucc days => exact exists_before (days + 1)

theorem daysBeforeYear_mono {year year' : Int} (le : year ≤ year') :
    daysBeforeYear year ≤ daysBeforeYear year' := by
  unfold daysBeforeYear
  omega

theorem daysBeforeMonth_mono (year : Int) {month month' : Nat} (le : month ≤ month') :
    daysBeforeMonth year month ≤ daysBeforeMonth year month' := by
  induction le with
  | refl => exact Nat.le_refl _
  | @step m _ ih =>
    cases m with
    | zero => exact ih
    | succ m => exact Nat.le_trans ih (Nat.le_add_right _ _)

/-- A day lies between the first day of its year and that of the next. -/
theorem Exists.within_year (h : d.Exists) :
    dayNumber ⟨d.year, 1, 1⟩ ≤ d.dayNumber ∧ d.dayNumber < dayNumber ⟨d.year + 1, 1, 1⟩ := by
  obtain ⟨lowMonth, highMonth, lowDay, highDay⟩ := h
  have month := daysBeforeMonth_succ d.year lowMonth
  have last : daysBeforeMonth d.year (d.month + 1) ≤ daysBeforeMonth d.year 13 :=
    daysBeforeMonth_mono d.year (by omega)
  have whole := daysBeforeMonth_thirteen d.year
  have year := daysBeforeYear_succ d.year
  simp only [dayNumber, daysBeforeMonth_one]
  omega

theorem first_le_first {year year' : Int} (le : year ≤ year') :
    dayNumber ⟨year, 1, 1⟩ ≤ dayNumber ⟨year', 1, 1⟩ := by
  have := daysBeforeYear_mono le
  simp only [dayNumber, daysBeforeMonth_one]
  omega

/-- The days of the calendar are numbered in their order. -/
theorem dayNumber_lt {d' : Date} (h : d.Exists) (h' : d'.Exists)
    (earlier : d.year < d'.year ∨ (d.year = d'.year ∧
      (d.month < d'.month ∨ (d.month = d'.month ∧ d.day < d'.day)))) :
    d.dayNumber < d'.dayNumber := by
  rcases earlier with year | ⟨year, month | ⟨month, day⟩⟩
  · have years := first_le_first (Int.add_one_le_of_lt year)
    exact Int.lt_of_lt_of_le h.within_year.2 (Int.le_trans years h'.within_year.1)
  · have whole := daysBeforeMonth_succ d.year h.1
    have months : daysBeforeMonth d.year (d.month + 1) ≤ daysBeforeMonth d.year d'.month :=
      daysBeforeMonth_mono d.year month
    have days := h.2.2.2
    have first := h'.2.2.1
    simp only [dayNumber, ← year]
    omega
  · simp only [dayNumber, year, month]
    omega

theorem ofDay_dayNumber (h : d.Exists) : ofDay d.dayNumber = d := by
  obtain ⟨h', same⟩ := exists_ofDay d.dayNumber
  generalize ofDay d.dayNumber = d' at *
  have notBefore := mt (dayNumber_lt h h') (by omega)
  have notAfter := mt (dayNumber_lt h' h) (by omega)
  obtain ⟨year, month, day⟩ := d
  obtain ⟨year', month', day'⟩ := d'
  simp only [Date.mk.injEq] at *
  omega

end Date

/-! ## Clocks -/

/-- What a clock with an offset shows at an instant. It shows a leap second as second 60. -/
def Instant.civil (t : Instant) (offset : Int) : Civil :=
  let shown := t.seconds + offset * 60
  let inDay := (shown % 86400).toNat
  { date := .ofDay (shown / 86400)
    hour := inDay / 3600
    minute := inDay / 60 % 60
    second := if nanosPerSecond ≤ t.nanos then 60 else inDay % 60
    nanos := t.nanos % nanosPerSecond
    offset }

/-- The nanoseconds are those of a second, or of a leap second, which is at the end of a minute. -/
def Instant.IsWritable (t : Instant) : Prop :=
  t.nanos < 2 * nanosPerSecond ∧ (nanosPerSecond ≤ t.nanos → t.seconds % 60 = 59)

namespace Instant

variable {t : Instant} {offset : Int}

theorem civil_seconds (writable : t.IsWritable) : (t.civil offset).seconds = t.seconds := by
  obtain ⟨-, leap⟩ := writable
  have date := (Date.exists_ofDay ((t.seconds + offset * 60) / 86400)).2
  simp only [Civil.seconds, civil, date]
  split
  · next isLeap =>
    have minute := leap isLeap
    omega
  · omega

theorem civil_second_eq_iff : (t.civil offset).second = 60 ↔ nanosPerSecond ≤ t.nanos := by
  simp only [civil]
  split <;> omega

/-- What a clock shows names the instant. -/
theorem instant_civil (writable : t.IsWritable) : (t.civil offset).instant = t := by
  have seconds : (t.civil offset).seconds = t.seconds := civil_seconds writable
  have nanos : (if nanosPerSecond ≤ t.nanos then (t.civil offset).nanos + nanosPerSecond
      else (t.civil offset).nanos) = t.nanos := by
    have few := writable.1
    by_cases leap : nanosPerSecond ≤ t.nanos
    · rw [if_pos leap]
      show t.nanos % nanosPerSecond + nanosPerSecond = t.nanos
      rw [Nat.mod_eq_sub_mod leap, Nat.mod_eq_of_lt (by omega)]
      omega
    · rw [if_neg leap]
      exact Nat.mod_eq_of_lt (Nat.lt_of_not_le leap)
  simp only [Civil.instant, civil_second_eq_iff, seconds, nanos]

/-- A clock shows at an instant what was written for it. -/
theorem civil_instant {c : Civil} (fits : c.Fits) : c.instant.civil c.offset = c := by
  obtain ⟨-, -, isDay, hour, minute, second, nanos, -⟩ := fits
  have shown : c.instant.seconds + c.offset * 60 =
      c.date.dayNumber * 86400 + (c.hour * 3600 + c.minute * 60 + min c.second 59 : Nat) := by
    simp only [Civil.instant, Civil.seconds]
    omega
  have day : (c.instant.seconds + c.offset * 60) / 86400 = c.date.dayNumber := by omega
  have inDay : ((c.instant.seconds + c.offset * 60) % 86400).toNat =
      c.hour * 3600 + c.minute * 60 + min c.second 59 := by omega
  have leap : nanosPerSecond ≤ c.instant.nanos ↔ c.second = 60 := by
    simp only [Civil.instant]
    split <;> omega
  have rest : c.instant.nanos % nanosPerSecond = c.nanos := by
    simp only [Civil.instant]
    split
    · rw [Nat.add_mod_right, Nat.mod_eq_of_lt nanos]
    · exact Nat.mod_eq_of_lt nanos
  obtain ⟨date, h, m, s, n, o⟩ := c
  simp only [civil, day, inDay, leap, rest, Date.ofDay_dayNumber isDay, Civil.mk.injEq] at *
  refine ⟨trivial, by omega, by omega, ?_, trivial, trivial⟩
  split <;> omega

theorem civil_fits (short : -1440 < offset ∧ offset < 1440)
    (low : 0 ≤ (t.civil offset).date.year) (high : (t.civil offset).date.year ≤ 9999) :
    (t.civil offset).Fits := by
  have isDay : (t.civil offset).date.Exists := (Date.exists_ofDay _).1
  simp only [Civil.Fits, Civil.firstYear, Civil.lastYear]
  refine ⟨by omega, by omega, isDay, ?_, ?_, ?_, Nat.mod_lt _ (by decide), short⟩
  all_goals simp only [civil]
  · omega
  · omega
  · split <;> omega

/-- What a clock shows in the years 0 to 9999 is read as the instant. -/
theorem instant?_civil (writable : t.IsWritable) (short : -1440 < offset ∧ offset < 1440)
    (low : 0 ≤ (t.civil offset).date.year) (high : (t.civil offset).date.year ≤ 9999) :
    (t.civil offset).instant? = some t := by
  have fits := civil_fits short low high
  have seconds : (t.civil offset).seconds = t.seconds := civil_seconds writable
  have day : (t.civil offset).date.dayNumber = (t.seconds + offset * 60) / 86400 :=
    (Date.exists_ofDay _).2
  have year := fits.2.2.1.within_year
  have first := Date.first_le_first low
  have last := Date.first_le_first (Int.add_le_add_right high 1)
  rw [day] at year
  have early : Civil.yearStart Civil.firstYear = -8334601228800 := by decide
  have late : Civil.yearStart (Civil.lastYear + 1) = 8210266876800 := by decide
  have zero : Date.dayNumber ⟨0, 1, 1⟩ = -719528 := by decide
  have tenThousand : Date.dayNumber ⟨9999 + 1, 1, 1⟩ = 2932897 := by decide
  rw [Civil.instant?, if_pos ⟨fits, by omega, by omega⟩, instant_civil writable]

end Instant

end Chronicle
