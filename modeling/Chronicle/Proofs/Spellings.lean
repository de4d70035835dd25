import Chronicle.Line
import Chronicle.Proofs.Calendar
import Chronicle.Proofs.Stamps
/-!
# Spelling a time

`Civil.Spelled` are the RFC 3339 spellings of a written time. Each of them is read as that time
(`Stamp.rfc3339Form_spelled`), so a line that starts with what some clock shows at an instant, in
any spelling, is read as that instant and the rest of the line: `Line.reads_every_spelling`.
-/

namespace Chronicle

/-! ## Padded numbers -/

namespace Decimal

theorem value_eq (cs : List Char) : value cs = Nat.ofDigitChars 10 cs 0 := by
  simp only [value, Nat.ofDigitChars_eq_foldl, digitValue, Nat.mul_comm]

theorem value_append_zeros (cs : List Char) (zeros : Nat) :
    value (cs ++ List.replicate zeros '0') = value cs * Nat.pow 10 zeros := by
  rw [value_eq, value_eq, Nat.ofDigitChars_append, Nat.ofDigitChars_replicate_zero]
  exact Nat.mul_comm _ _

theorem value_padded (width n : Nat) : value (padded width n) = n := by
  rw [value_eq, padded, Nat.ofDigitChars_append, Nat.ofDigitChars_replicate_zero, Nat.mul_zero,
    digits, Nat.ofDigitChars_ten_toDigits]

theorem isDigit_padded {width n : Nat} {c : Char} (mem : c ∈ padded width n) :
    isDigit c = true := by
  rcases List.mem_append.1 mem with zero | digit
  · rw [List.eq_of_mem_replicate zero]
    rfl
  · have := Nat.isDigit_of_mem_toDigits (by decide) (by decide) digit
    simpa [Char.isDigit, isDigit, Char.le_def] using this

theorem length_padded {width n : Nat} (wide : 0 < width) (fits : n < Nat.pow 10 width) :
    (padded width n).length = width := by
  have short : (digits n).length ≤ width := (Nat.length_toDigits_le_iff (by decide) wide).2 fits
  simp [padded]
  omega

end Decimal

open Decimal (padded isDigit)

/-! ## Spellings -/

namespace Stamp

/-- The spellings of so many nanoseconds: a point and digits, of which the first nine count, with
zeros where there are fewer, or nothing if there are none. -/
inductive Fraction : Nat → List Char → Prop where
  | absent : Fraction 0 []
  | digits {ds : List Char} (some : ds ≠ []) (each : ∀ c ∈ ds, isDigit c = true) :
      Fraction (Decimal.value ((ds ++ List.replicate 9 '0').take 9)) ('.' :: ds)

/-- The signs of an offset. -/
inductive Mark : Int → Char → Prop where
  | ahead : Mark 1 '+'
  | behind : Mark (-1) '-'

/-- The spellings of an offset in minutes: hours and minutes with a sign, or a letter if there is no
offset. -/
inductive Zone : Int → List Char → Prop where
  | upper : Zone 0 ['Z']
  | lower : Zone 0 ['z']
  | signed {direction : Int} {mark : Char} {hours minutes : Nat} (sign : Mark direction mark)
      (h : hours ≤ 23) (m : minutes ≤ 59) :
      Zone (direction * (hours * 60 + minutes))
        (mark :: (padded 2 hours ++ ':' :: padded 2 minutes))

end Stamp

/-- The RFC 3339 spellings of a written time. -/
inductive Civil.Spelled (c : Civil) : List Char → Prop where
  | of {mark : Char} {fraction zone : List Char} (between : mark = 'T' ∨ mark = 't')
      (nanos : Stamp.Fraction c.nanos fraction) (offset : Stamp.Zone c.offset zone) :
      Spelled c (padded 4 c.date.year.toNat ++ '-' :: (padded 2 c.date.month ++
        '-' :: (padded 2 c.date.day ++ mark :: (padded 2 c.hour ++ ':' :: (padded 2 c.minute ++
          ':' :: (padded 2 c.second ++ (fraction ++ zone)))))))

namespace Stamp

open Scan

/-! ## Reading them -/

theorem spanDigits_append {most : Nat} {ds rest : List Char} (each : ∀ c ∈ ds, isDigit c = true)
    (fits : ds.length ≤ most) (stops : ds.length = most ∨ ¬ DigitFirst rest) :
    spanDigits most (ds ++ rest) = (ds, rest) := by
  induction ds generalizing most with
  | nil =>
    cases most with
    | zero => rfl
    | succ most =>
      cases rest with
      | nil => rfl
      | cons c rest =>
        have other : ¬ isDigit c = true := by
          intro digit
          rcases stops with full | none
          · simp at full
          · exact none ⟨c, rest, rfl, digit⟩
        simp [spanDigits, other]
  | cons c ds ih =>
    cases most with
    | zero => simp at fits
    | succ most =>
      have digit := each c List.mem_cons_self
      have taken := ih (fun d mem => each d (List.mem_cons_of_mem c mem)) (by simpa using fits)
        (stops.imp_left (by simp))
      simp [spanDigits, digit, taken]

theorem number_padded {width n : Nat} (wide : 0 < width) (fits : n < Nat.pow 10 width)
    (rest : List Char) : number width width (padded width n ++ rest) = some (n, rest) := by
  have length := Decimal.length_padded wide fits
  have taken : spanDigits width (padded width n ++ rest) = (padded width n, rest) :=
    spanDigits_append (fun _ => Decimal.isDigit_padded) (by omega) (.inl length)
  rw [number_eq_some, taken]
  exact ⟨Nat.le_of_eq length.symm, Decimal.value_padded width n, rfl⟩

theorem number_two {n : Nat} (fits : n ≤ 99) (rest : List Char) :
    number 2 2 (padded 2 n ++ rest) = some (n, rest) :=
  number_padded (by decide) (Nat.lt_succ_of_le fits) rest

theorem char_cons (c : Char) (rest : List Char) : char c (c :: rest) = some ((), rest) :=
  if_pos rfl

theorem dropWhile_digits {ds rest : List Char} (each : ∀ c ∈ ds, isDigit c = true)
    (stops : ¬ DigitFirst rest) : (ds ++ rest).dropWhile isDigit = rest := by
  rw [List.dropWhile_append_of_pos each]
  cases rest with
  | nil => rfl
  | cons c rest =>
    have other : ¬ isDigit c = true := fun digit => stops ⟨c, rest, rfl, digit⟩
    simp [other]

/-- Of the digits of a fraction the first nine count, with zeros where there are fewer. -/
theorem value_nine (ds : List Char) : Decimal.value ((ds ++ List.replicate 9 '0').take 9) =
    Decimal.value (ds.take 9) * Nat.pow 10 (9 - (ds.take 9).length) := by
  have zeros : min (9 - ds.length) 9 = 9 - (ds.take 9).length := by
    rw [List.length_take]
    omega
  rw [List.take_append, List.take_replicate, zeros, Decimal.value_append_zeros]

theorem anyDigits_spelled {nanos : Nat} {fraction rest : List Char}
    (spelled : Fraction nanos fraction) (stops : ¬ DigitFirst rest)
    (point : rest.head? ≠ some '.') :
    anyDigits (fraction ++ rest) = some (nanos, rest) := by
  cases spelled with
  | absent => exact (fraction_absent point).1
  | @digits ds nonempty each =>
    have parted : ds ++ rest = ds.take 9 ++ (ds.drop 9 ++ rest) := by
      rw [← List.append_assoc, List.take_append_drop]
    have nine : (ds.take 9).length = 9 ∨ ¬ DigitFirst (ds.drop 9 ++ rest) := by
      rcases Nat.le_total 9 ds.length with long | short
      · exact .inl (List.length_take_of_le long)
      · exact .inr (by rwa [List.drop_of_length_le short])
    have taken : spanDigits 9 (ds ++ rest) = (ds.take 9, ds.drop 9 ++ rest) := by
      rw [parted]
      exact spanDigits_append (fun c mem => each c (List.mem_of_mem_take mem))
        (List.length_take_le 9 ds) nine
    have left : (ds.drop 9 ++ rest).dropWhile isDigit = rest :=
      dropWhile_digits (fun c mem => each c (List.mem_of_mem_drop mem)) stops
    rw [List.cons_append, anyDigits_point, taken, if_neg (by simpa using nonempty), left,
      value_nine]

theorem Zone.first {offset : Int} {zone : List Char} (spelled : Zone offset zone) :
    ¬ DigitFirst zone ∧ zone.head? ≠ some '.' := by
  cases spelled with
  | upper | lower => exact ⟨fun digits => digits.ne rfl rfl, by simp⟩
  | signed sign => cases sign <;> exact ⟨fun digits => digits.ne rfl rfl, by simp⟩

theorem offsetMinutes_padded {minutes : Nat} (m : minutes ≤ 59) :
    offsetMinutes (padded 2 minutes) = some (minutes, []) := by
  have read := number_two (n := minutes) (by omega) []
  rw [List.append_nil] at read
  rw [offsetMinutes, bind_of_eq read, guard_bind m]
  rfl

theorem sign_mark {direction : Int} {mark : Char} (signs : Mark direction mark) (rest : List Char) :
    sign (mark :: rest) = some (direction, rest) := by
  cases signs <;> rfl

theorem strictOffset_spelled {offset : Int} {zone : List Char} (spelled : Zone offset zone) :
    strictOffset zone = some (offset, []) := by
  cases spelled with
  | upper => rfl
  | lower => rfl
  | @signed direction mark hours minutes signs h m =>
    rw [strictOffset, bind_of_eq (get_eq _)]
    have read := sign_mark signs (padded 2 hours ++ ':' :: padded 2 minutes)
    cases signs
    all_goals
      refine (bind_of_eq read).trans ?_
      rw [bind_of_eq (number_two (by omega) _), bind_of_eq (char_cons _ _),
        bind_of_eq (offsetMinutes_padded m)]
      rfl

theorem dateEnd_mark {mark : Char} (between : mark = 'T' ∨ mark = 't') (rest : List Char) :
    dateEnd (mark :: rest) = some ((), rest) := by
  rcases between with rfl | rfl <;> rfl

theorem rfc3339Form_spelled {c : Civil} {token : List Char} (spelled : c.Spelled token)
    (fits : c.Fits) (low : 0 ≤ c.date.year) (high : c.date.year ≤ 9999) :
    rfc3339Form token = some (c, []) := by
  obtain ⟨between, nanos, offset⟩ := spelled
  obtain ⟨-, -, ⟨-, month, -, day⟩, hour, minute, second, -⟩ := fits
  have days := daysInMonth_le c.date.year c.date.month
  have fourDigits : c.date.year.toNat < Nat.pow 10 4 := by
    show _ < 10000
    omega
  rw [rfc3339Form, bind_of_eq (number_padded (by decide) fourDigits _), bind_of_eq (char_cons _ _),
    bind_of_eq (number_two (by omega) _), bind_of_eq (char_cons _ _),
    bind_of_eq (number_two (by omega) _), bind_of_eq (dateEnd_mark between _),
    bind_of_eq (number_two (by omega) _), bind_of_eq (char_cons _ _),
    bind_of_eq (number_two (by omega) _), bind_of_eq (char_cons _ _),
    bind_of_eq (number_two (by omega) _),
    bind_of_eq (anyDigits_spelled nanos offset.first.1 offset.first.2),
    bind_of_eq (strictOffset_spelled offset), Int.toNat_of_nonneg low]
  rfl

/-- A text that the RFC 3339 form reads is read as the instant of that, and the other form, which is
tried first, does not get in the way. -/
theorem read?_of_rfc3339Form {c : Civil} {t : Instant} {token rest : List Char}
    (reads : rfc3339Form token = some (c, rest)) (names : c.instant? = some t) :
    read? token = some t := by
  have strict : readRfc3339? token = some t := by simp [readRfc3339?, instantIn?, reads, names]
  rcases forms_agree token c rest reads with fails | alike
  · simp [read?, readNano?, instantIn?, fails, strict]
  · simp [read?, readNano?, instantIn?, alike, names]

end Stamp

/-! ## Lines -/

theorem Decimal.solid_padded (width n : Nat) : ' ' ∉ padded width n :=
  fun mem => Bool.false_ne_true (isDigit_padded mem)

theorem Stamp.Fraction.solid {nanos : Nat} {fraction : List Char}
    (spelled : Stamp.Fraction nanos fraction) : ' ' ∉ fraction := by
  cases spelled with
  | absent => simp
  | digits _ each =>
    have noDigit : ¬ isDigit ' ' = true := by decide
    simpa using fun mem => noDigit (each ' ' mem)

theorem Stamp.Zone.solid {offset : Int} {zone : List Char} (spelled : Stamp.Zone offset zone) :
    ' ' ∉ zone := by
  cases spelled with
  | upper | lower => simp
  | signed sign => cases sign <;> simp [Decimal.solid_padded]

theorem Civil.Spelled.solid {c : Civil} {token : List Char} (spelled : c.Spelled token) :
    ' ' ∉ token := by
  obtain ⟨between, nanos, offset⟩ := spelled
  rcases between with rfl | rfl <;> simp [Decimal.solid_padded, nanos.solid, offset.solid]

namespace Line

theorem split_append {token : List Char} (solid : ' ' ∉ token) (message : List Char) :
    split (token ++ ' ' :: message) = some (token, message) := by
  induction token with
  | nil => rfl
  | cons c token ih =>
    obtain ⟨other, solid⟩ : ' ' ≠ c ∧ ' ' ∉ token := by simpa using solid
    rw [List.cons_append, split, ih solid]
    · rfl
    · exact fun same => other same.symm

/-- Whatever a clock shows at an instant, in any RFC 3339 spelling of a year of four digits, is read
as that instant, and the message is what follows the space. -/
theorem reads_every_spelling {t : Instant} {offset : Int} {token message : String}
    (writable : t.IsWritable) (short : -1440 < offset ∧ offset < 1440)
    (low : 0 ≤ (t.civil offset).date.year) (high : (t.civil offset).date.year ≤ 9999)
    (spelled : (t.civil offset).Spelled token.toList) :
    read (token ++ " " ++ message) = .ok ⟨message, t⟩ := by
  have names := Instant.instant?_civil writable short low high
  have fits := Instant.civil_fits short low high
  have reads := Stamp.rfc3339Form_spelled spelled fits low high
  have parted : split (token ++ " " ++ message).toList = some (token.toList, message.toList) := by
    rw [String.toList_append, String.toList_append, List.append_assoc]
    exact split_append spelled.solid message.toList
  rw [read, parted]
  simp only [Stamp.read?_of_rfc3339Form reads names, String.ofList_toList]

/-- The leap second at the end of 1972, when clocks two hours ahead show the next year. -/
theorem leap_second_is_read :
    (Instant.civil ⟨94694399, 1500000000⟩ 120).date = ⟨1973, 1, 1⟩ ∧
      (Instant.civil ⟨94694399, 1500000000⟩ 120).Spelled
        "1973-01-01t01:59:60.5000000007+02:00".toList ∧
      read ("1973-01-01t01:59:60.5000000007+02:00" ++ " " ++ "still 1972") =
        .ok ⟨"still 1972", ⟨94694399, 1500000000⟩⟩ := by
  have date : Date.ofDay ((94694399 + 120 * 60) / 86400) = ⟨1973, 1, 1⟩ :=
    Date.ofDay_dayNumber (d := ⟨1973, 1, 1⟩) (by decide)
  have shown : Instant.civil ⟨94694399, 1500000000⟩ 120 =
      ⟨⟨1973, 1, 1⟩, 1, 59, 60, 500000000, 120⟩ := by
    simp only [Instant.civil, date]
    rfl
  have nanos : Stamp.Fraction 500000000 ('.' :: "5000000007".toList) :=
    @Stamp.Fraction.digits "5000000007".toList (by decide) (List.all_eq_true.1 (by decide))
  have offset : Stamp.Zone 120 "+02:00".toList :=
    @Stamp.Zone.signed 1 '+' 2 0 .ahead (by decide) (by decide)
  have spelled : (Instant.civil ⟨94694399, 1500000000⟩ 120).Spelled
      "1973-01-01t01:59:60.5000000007+02:00".toList := by
    rw [shown]
    exact @Civil.Spelled.of ⟨⟨1973, 1, 1⟩, 1, 59, 60, 500000000, 120⟩ _ _ _ (.inr rfl) nanos offset
  have writable : Instant.IsWritable ⟨94694399, 1500000000⟩ := ⟨by decide, by decide⟩
  have year : (Instant.civil ⟨94694399, 1500000000⟩ 120).date.year = 1973 := by rw [shown]
  refine ⟨by rw [shown], spelled, ?_⟩
  exact reads_every_spelling writable (by decide) (by omega) (by omega) spelled

end Line

end Chronicle
