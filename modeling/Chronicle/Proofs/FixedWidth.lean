import Chronicle.Proofs.Encodings
import Chronicle.Proofs.Forms
/-!
# Stamps of fixed width

Container runtimes write all times with the same number of digits and in UTC. Such stamps have the
order of the times that they name: they can be sorted as rows of bytes, and two different ones name
different times (`Line.fixed_width_in_order`).
-/

namespace Chronicle

open Decimal (isDigit digitValue)

/-! ## Rows of digits -/

namespace Decimal

theorem digit_range {c : Char} (digit : isDigit c = true) :
    c.toNat = 48 + digitValue c ∧ digitValue c ≤ 9 := by
  simp only [isDigit, Bool.and_eq_true, decide_eq_true_eq, Char.le_def,
    UInt32.le_iff_toNat_le] at digit
  have low : 48 ≤ c.toNat := digit.1
  have high : c.toNat ≤ 57 := digit.2
  have zero : '0'.toNat = 48 := rfl
  simp only [digitValue, zero]
  omega

theorem value_cons (c : Char) (cs : List Char) :
    value (c :: cs) = digitValue c * Nat.pow 10 cs.length + value cs := by
  rw [value_eq, value_eq, Nat.ofDigitChars_cons, Nat.ofDigitChars_eq_ofDigitChars_zero,
    Nat.mul_zero, Nat.zero_add, Nat.mul_comm]
  rfl

theorem value_lt {cs : List Char} (each : ∀ c ∈ cs, isDigit c = true) :
    value cs < Nat.pow 10 cs.length := by
  induction cs with
  | nil => exact Nat.one_pos
  | cons c cs ih =>
    have small := ih fun d mem => each d (List.mem_cons_of_mem c mem)
    have digit := (digit_range (each c List.mem_cons_self)).2
    have most := Nat.mul_le_mul_right (Nat.pow 10 cs.length) digit
    have next : Nat.pow 10 (cs.length + 1) = Nat.pow 10 cs.length * 10 := rfl
    rw [value_cons, List.length_cons, next]
    omega

end Decimal

namespace Utf8

theorem encode_lt_iff {c d : Char} (ascii : c.toNat < 128) (ascii' : d.toNat < 128)
    (s t : List Char) : encode (c :: s) < encode (d :: t) ↔
      c.toNat < d.toNat ∨ c = d ∧ encode s < encode t := by
  have byte : (UInt8.ofNat c.toNat).toNat = c.toNat := Nat.mod_eq_of_lt (by omega)
  have byte' : (UInt8.ofNat d.toNat).toNat = d.toNat := Nat.mod_eq_of_lt (by omega)
  rw [encode_ascii ascii, encode_ascii ascii', List.cons_lt_cons_iff, UInt8.lt_iff_toNat_lt,
    ← UInt8.toNat_inj, byte, byte', Char.toNat_inj]

theorem encode_mark_lt_iff {c : Char} (ascii : c.toNat < 128) (s t : List Char) :
    encode (c :: s) < encode (c :: t) ↔ encode s < encode t := by
  rw [encode_lt_iff ascii ascii]
  simp

/-- Of rows of the same number of digits the smaller number comes first, and after equal numbers the
rest decides. -/
theorem encode_digits_lt_iff {ds es : List Char} (each : ∀ c ∈ ds, isDigit c = true)
    (each' : ∀ c ∈ es, isDigit c = true) (width : ds.length = es.length) (s t : List Char) :
    encode (ds ++ s) < encode (es ++ t) ↔ Decimal.value ds < Decimal.value es ∨
      Decimal.value ds = Decimal.value es ∧ encode s < encode t := by
  induction ds generalizing es with
  | nil =>
    obtain rfl := List.eq_nil_of_length_eq_zero width.symm
    simp
  | cons d ds ih =>
    obtain ⟨e, es, rfl⟩ := List.exists_cons_of_length_eq_add_one width.symm
    have width : ds.length = es.length := Nat.succ.inj width
    obtain ⟨digit, each⟩ := List.forall_mem_cons.1 each
    obtain ⟨digit', each'⟩ := List.forall_mem_cons.1 each'
    obtain ⟨code, nine⟩ := Decimal.digit_range digit
    obtain ⟨code', nine'⟩ := Decimal.digit_range digit'
    have small := Decimal.value_lt each
    have small' := Decimal.value_lt each'
    have same : d = e ↔ digitValue d = digitValue e := by
      rw [← Char.toNat_inj]
      omega
    rw [List.cons_append, List.cons_append, encode_lt_iff (by omega) (by omega), ih each each' width,
      Decimal.value_cons, Decimal.value_cons, same, code, code']
    rw [← width] at small' ⊢
    rcases Nat.lt_trichotomy (digitValue d) (digitValue e) with less | equal | more
    · have := Nat.mul_le_mul_right (Nat.pow 10 ds.length) (Nat.succ_le_of_lt less)
      rw [Nat.succ_mul] at this
      omega
    · simp [equal]
    · have := Nat.mul_le_mul_right (Nat.pow 10 ds.length) (Nat.succ_le_of_lt more)
      rw [Nat.succ_mul] at this
      omega

end Utf8

/-! ## The order of written times -/

/-- An earlier day. -/
def Date.Before (d d' : Date) : Prop :=
  d.year < d'.year ∨ (d.year = d'.year ∧
    (d.month < d'.month ∨ (d.month = d'.month ∧ d.day < d'.day)))

theorem Date.eq_iff {d d' : Date} :
    d = d' ↔ d.year = d'.year ∧ d.month = d'.month ∧ d.day = d'.day := by
  obtain ⟨y, mo, da⟩ := d
  obtain ⟨y', mo', da'⟩ := d'
  simp only [Date.mk.injEq]

theorem Date.before_or_eq (d d' : Date) : d.Before d' ∨ d = d' ∨ d'.Before d := by
  rw [eq_iff, Before, Before]
  omega

/-- An earlier day, or an earlier time of the same day. -/
def Civil.Before (c c' : Civil) : Prop :=
  c.date.Before c'.date ∨ (c.date = c'.date ∧ (c.hour < c'.hour ∨ (c.hour = c'.hour ∧
    (c.minute < c'.minute ∨ (c.minute = c'.minute ∧
      (c.second < c'.second ∨ (c.second = c'.second ∧ c.nanos < c'.nanos)))))))

theorem Instant.not_le {t t' : Instant} :
    ¬ t' ≤ t ↔ t.seconds < t'.seconds ∨ (t.seconds = t'.seconds ∧ t.nanos < t'.nanos) := by
  rw [le_iff]
  omega

namespace Civil

variable {c c' : Civil}

/-- On one clock an earlier time names an earlier instant. A leap second is in the second before it,
behind all that second has. -/
theorem Before.instant_lt (before : c.Before c') (fits : c.Fits) (fits' : c'.Fits)
    (clock : c.offset = c'.offset) : ¬ c'.instant ≤ c.instant := by
  obtain ⟨-, -, isDay, hour, minute, second, nanos, -⟩ := fits
  obtain ⟨-, -, isDay', hour', minute', second', nanos', -⟩ := fits'
  rw [Instant.not_le]
  rcases before with day | ⟨day, time⟩
  · have days := Date.dayNumber_lt isDay isDay' day
    simp only [instant, seconds, ← clock]
    omega
  · simp only [instant, seconds, ← clock, ← day]
    split <;> split <;> omega

theorem before_or_eq (c c' : Civil) (clock : c.offset = c'.offset) :
    c.Before c' ∨ c = c' ∨ c'.Before c := by
  rcases Date.before_or_eq c.date c'.date with day | day | day
  · exact .inl (.inl day)
  · obtain ⟨date, h, mi, s, n, o⟩ := c
    obtain ⟨date', h', mi', s', n', o'⟩ := c'
    obtain rfl : date = date' := day
    obtain rfl : o = o' := clock
    simp only [Before, Civil.mk.injEq, true_and, and_true]
    omega
  · exact .inr (.inr (.inl day))

/-- Times on one clock are in the order of the instants they name. -/
theorem instant_le_iff (fits : c.Fits) (fits' : c'.Fits) (clock : c.offset = c'.offset) :
    c.instant ≤ c'.instant ↔ ¬ c'.Before c := by
  constructor
  · intro le before
    exact before.instant_lt fits' fits clock.symm le
  · intro notBefore
    rcases before_or_eq c c' clock with before | rfl | before
    · exact (Instant.le_total _ _).resolve_right (before.instant_lt fits fits' clock)
    · exact Instant.le_refl _
    · exact absurd before notBefore

end Civil

/-! ## The form of fixed width -/

namespace Grammar

/-- What one form has as a part, another form has too. -/
structure Within (g g' : Grammar) : Prop where
  year {y : Int} {text : List Char} : g.year y text → g'.year y text
  field {n : Nat} {text : List Char} : g.field n text → g'.field n text
  between {c : Char} : g.between c → g'.between c
  fraction {n : Nat} {text : List Char} : g.fraction n text → g'.fraction n text
  zone {o : Int} {text : List Char} : g.zone o text → g'.zone o text

theorem Within.spells {g g' : Grammar} (within : g.Within g') {c : Civil} {s : List Char}
    (spelled : g.Spells c s) : g'.Spells c s := by
  obtain ⟨year, month, day, between, hour, minute, second, fraction, zone⟩ := spelled
  exact .of (within.year year) (within.field month) (within.field day) (within.between between)
    (within.field hour) (within.field minute) (within.field second) (within.fraction fraction)
    (within.zone zone)

theorem Digits.widen {least least' most most' n : Nat} {ds : List Char}
    (digits : Digits least most n ds) (low : least' ≤ least) (high : most ≤ most') :
    Digits least' most' n ds := by
  obtain ⟨each, least, most⟩ := digits
  exact .of each (Nat.le_trans low least) (Nat.le_trans most high)

theorem Spaced.unspaced {α : Type} {spells : α → List Char → Prop} {a : α} {text : List Char}
    (spelled : spells a text) : Spaced spells a text := by
  have noGap : ∀ c ∈ ([] : List Char), isBlank c = true := nofun
  exact .of noGap spelled

/-- The form of fixed width: nine digits of a second, and UTC. -/
def fixed : Grammar where
  year y text := ∃ n : Nat, y = n ∧ Digits 4 4 n text
  field := Digits 2 2
  between := (· = 'T')
  fraction n text := ∃ ds, text = '.' :: ds ∧ Digits 9 9 n ds
  zone o text := o = 0 ∧ text = ['Z']

theorem fixed_within_nano : fixed.Within nano where
  year := by
    rintro _ _ ⟨n, rfl, digits⟩
    exact .unspaced (.unsigned (digits.widen (by decide) (by decide)))
  field digits := .unspaced (digits.widen (by decide) (by decide))
  between same := same
  fraction := by
    rintro _ _ ⟨ds, rfl, nine⟩
    exact .digits nine
  zone := by
    rintro _ _ ⟨rfl, rfl⟩
    exact .unspaced .upper

variable {w n n' : Nat} {ds ds' s s' : List Char} {c c' : Civil}

theorem Digits.encode_lt_iff (digits : Digits w w n ds) (digits' : Digits w w n' ds') :
    Utf8.encode (ds ++ s) < Utf8.encode (ds' ++ s') ↔
      n < n' ∨ n = n' ∧ Utf8.encode s < Utf8.encode s' := by
  obtain ⟨each, low, high⟩ := digits
  obtain ⟨each', low', high'⟩ := digits'
  exact Utf8.encode_digits_lt_iff each each' (by omega) s s'

/-- Stamps of fixed width are in the order of what they spell. -/
theorem fixed_lt_iff (spelled : fixed.Spells c s) (spelled' : fixed.Spells c' s') :
    Utf8.encode s < Utf8.encode s' ↔ c.Before c' := by
  obtain ⟨⟨y, isYear, year⟩, month, day, rfl, hour, minute, second, ⟨ds, rfl, nine⟩, ⟨utc, rfl⟩⟩ :=
    spelled
  obtain ⟨⟨y', isYear', year'⟩, month', day', rfl, hour', minute', second', ⟨ds', rfl, nine'⟩,
    ⟨utc', rfl⟩⟩ := spelled'
  have mark {c : Char} (ascii : c.toNat < 128) (s t : List Char) :
      Utf8.encode (c :: s) < Utf8.encode (c :: t) ↔ Utf8.encode s < Utf8.encode t :=
    Utf8.encode_mark_lt_iff ascii s t
  have last : ¬ Utf8.encode ['Z'] < Utf8.encode ['Z'] := List.lt_irrefl _
  rw [year.encode_lt_iff year', mark (by decide), month.encode_lt_iff month', mark (by decide),
    day.encode_lt_iff day', mark (by decide), hour.encode_lt_iff hour', mark (by decide),
    minute.encode_lt_iff minute', mark (by decide), second.encode_lt_iff second', List.cons_append,
    List.cons_append, mark (by decide), nine.encode_lt_iff nine', Civil.Before, Date.Before,
    Date.eq_iff]
  simp only [last, and_false, or_false]
  omega

end Grammar

namespace Stamp

open Grammar

/-- Has a text digits where a pattern has zeros, and the pattern's other characters? -/
def follows : List Char → List Char → Bool
  | [], [] => true
  | p :: pattern, c :: text => (if p = '0' then isDigit c else c == p) && follows pattern text
  | _, _ => false

/-- How a stamp of fixed width looks. -/
def fixedPattern : List Char := "0000-00-00T00:00:00.000000000Z".toList

variable {pattern text : List Char}

theorem follows_digits (w : Nat) (looks : follows (List.replicate w '0' ++ pattern) text) :
    ∃ n ds rest, text = ds ++ rest ∧ Digits w w n ds ∧ follows pattern rest := by
  induction w generalizing text with
  | zero => exact ⟨_, [], text, rfl, .of (by simp) (Nat.le_refl 0) (Nat.le_refl 0), looks⟩
  | succ w ih =>
    cases text with
    | nil => cases looks
    | cons c text =>
      obtain ⟨digit, looks⟩ := Bool.and_eq_true_iff.1 looks
      obtain ⟨n, ds, rest, rfl, ⟨each, low, high⟩, more⟩ := ih looks
      exact ⟨_, c :: ds, rest, rfl, .of (List.forall_mem_cons.2 ⟨digit, each⟩)
        (Nat.succ_le_succ low) (Nat.succ_le_succ high), more⟩

theorem follows_mark {c : Char} (fixed : c ≠ '0') (looks : follows (c :: pattern) text) :
    ∃ rest, text = c :: rest ∧ follows pattern rest := by
  cases text with
  | nil => cases looks
  | cons d text =>
    obtain ⟨same, looks⟩ := Bool.and_eq_true_iff.1 looks
    rw [if_neg fixed] at same
    exact ⟨text, by rw [eq_of_beq same], looks⟩

theorem fixedPattern_eq : fixedPattern =
    List.replicate 4 '0' ++ '-' :: (List.replicate 2 '0' ++ '-' :: (List.replicate 2 '0' ++
      'T' :: (List.replicate 2 '0' ++ ':' :: (List.replicate 2 '0' ++ ':' ::
        (List.replicate 2 '0' ++ '.' :: (List.replicate 9 '0' ++ ['Z'])))))) := by
  decide

theorem mem_of_follows (looks : follows pattern text) {c : Char} (mem : c ∈ text) :
    isDigit c = true ∨ c ∈ pattern := by
  induction pattern generalizing text with
  | nil =>
    cases text with
    | nil => cases mem
    | cons d text => cases looks
  | cons p pattern ih =>
    cases text with
    | nil => cases mem
    | cons d text =>
      obtain ⟨first, looks⟩ := Bool.and_eq_true_iff.1 looks
      rcases List.mem_cons.1 mem with rfl | mem
      · split at first
        · exact .inl first
        · exact .inr (eq_of_beq first ▸ List.mem_cons_self)
      · exact (ih looks mem).imp_right (List.mem_cons_of_mem p)

theorem solid_of_follows (looks : follows fixedPattern text) : ' ' ∉ text := by
  intro mem
  rcases mem_of_follows looks mem with digit | mem
  · cases digit
  · exact absurd mem (by decide)

/-- What looks like a stamp of fixed width spells a time, though maybe not one that the calendar
has. -/
theorem exists_fixed (looks : follows fixedPattern text) : ∃ c, Grammar.fixed.Spells c text := by
  rw [fixedPattern_eq] at looks
  obtain ⟨y, year, text, rfl, isYear, looks⟩ := follows_digits 4 looks
  obtain ⟨text, rfl, looks⟩ := follows_mark (by decide) looks
  obtain ⟨mo, month, text, rfl, isMonth, looks⟩ := follows_digits 2 looks
  obtain ⟨text, rfl, looks⟩ := follows_mark (by decide) looks
  obtain ⟨d, day, text, rfl, isDay, looks⟩ := follows_digits 2 looks
  obtain ⟨text, rfl, looks⟩ := follows_mark (by decide) looks
  obtain ⟨h, hour, text, rfl, isHour, looks⟩ := follows_digits 2 looks
  obtain ⟨text, rfl, looks⟩ := follows_mark (by decide) looks
  obtain ⟨mi, minute, text, rfl, isMinute, looks⟩ := follows_digits 2 looks
  obtain ⟨text, rfl, looks⟩ := follows_mark (by decide) looks
  obtain ⟨s, second, text, rfl, isSecond, looks⟩ := follows_digits 2 looks
  obtain ⟨text, rfl, looks⟩ := follows_mark (by decide) looks
  obtain ⟨n, nanos, text, rfl, isNanos, looks⟩ := follows_digits 9 looks
  obtain ⟨text, rfl, looks⟩ := follows_mark (by decide) looks
  obtain rfl : text = [] := by
    cases text with
    | nil => rfl
    | cons c text => cases looks
  have between : Grammar.fixed.between 'T' := rfl
  have fraction : Grammar.fixed.fraction n ('.' :: nanos) := ⟨nanos, rfl, isNanos⟩
  have zone : Grammar.fixed.zone 0 ['Z'] := ⟨rfl, rfl⟩
  have spelled := Grammar.Spells.of (g := Grammar.fixed) (c := ⟨⟨y, mo, d⟩, h, mi, s, n, 0⟩)
    ⟨y, rfl, isYear⟩ isMonth isDay between isHour isMinute isSecond fraction zone
  exact ⟨_, spelled⟩

theorem read?_of_nano {c : Civil} (spelled : Grammar.nano.Spells c text) :
    read? text = c.instant? := by
  have lax : nanoForm text = some (c, []) := nanoForm_eq_some_iff.2 ⟨spelled, rfl⟩
  cases named : c.instant? with
  | some t => exact read?_of_nanoForm lax named
  | none =>
    -- The other form reads the same time, if any, and the calendar does not have it either.
    refine Option.eq_none_iff_forall_ne_some.2 fun t reads => ?_
    obtain ⟨c', lax' | strict, names⟩ := read?_eq_some_iff.1 reads
    · have same := lax.symm.trans (nanoForm_eq_some_iff.2 ⟨lax', rfl⟩)
      cases same
      cases named.symm.trans names
    · have form := rfc3339Form_eq_some_iff.2 ⟨strict, rfl⟩
      rcases forms_agree _ _ _ form with fails | alike
      · cases lax.symm.trans fails
      · cases lax.symm.trans alike
        cases named.symm.trans names

end Stamp

theorem Grammar.fixed_offset {c : Civil} {s : List Char} (spelled : fixed.Spells c s) :
    c.offset = 0 := by
  obtain ⟨-, -, -, -, -, -, -, -, utc, -⟩ := spelled
  exact utc

/-- Stamps of fixed width, of times that the calendar has, are in the order of the instants. -/
theorem Grammar.fixed_le_iff {c c' : Civil} {s s' : List Char} (spelled : fixed.Spells c s)
    (spelled' : fixed.Spells c' s') (fits : c.Fits) (fits' : c'.Fits) :
    Utf8.encode s ≤ Utf8.encode s' ↔ c.instant ≤ c'.instant := by
  have clock : c.offset = c'.offset := (fixed_offset spelled).trans (fixed_offset spelled').symm
  rw [Civil.instant_le_iff fits fits' clock, ← fixed_lt_iff spelled' spelled]
  exact List.not_lt.symm

namespace Line

/-- A line with a stamp of fixed width has the time that the stamp spells. -/
theorem exists_fixed {token message : String} {x : Line}
    (looks : Stamp.follows Stamp.fixedPattern token.toList)
    (reads : read (token ++ " " ++ message) = .ok x) :
    ∃ c, Grammar.fixed.Spells c token.toList ∧ c.Fits ∧ c.instant = x.time := by
  obtain ⟨c, spelled⟩ := Stamp.exists_fixed looks
  obtain ⟨front, rest, parted, named, -⟩ := read_eq_ok.1 reads
  have whole : (token ++ " " ++ message).toList = token.toList ++ ' ' :: message.toList := by
    simp
  rw [whole, split_append (Stamp.solid_of_follows looks)] at parted
  obtain ⟨rfl, rfl⟩ := Prod.mk.inj (Option.some.inj parted)
  rw [Stamp.read?_of_nano (Grammar.fixed_within_nano.spells spelled)] at named
  obtain ⟨fits, -, same⟩ := Civil.instant?_eq_some_iff.1 named
  exact ⟨c, spelled, fits, same⟩

/-- Stamps of fixed width that are read, in lines with any messages, have as rows of bytes the order
of the times they name, and different ones name different times. -/
theorem fixed_width_in_order {a b message message' : String} {x y : Line}
    (looks : Stamp.follows Stamp.fixedPattern a.toList)
    (looks' : Stamp.follows Stamp.fixedPattern b.toList)
    (reads : read (a ++ " " ++ message) = .ok x) (reads' : read (b ++ " " ++ message') = .ok y) :
    (Utf8.bytes a ≤ Utf8.bytes b ↔ x.time ≤ y.time) ∧ (x.time = y.time ↔ a = b) := by
  obtain ⟨c, spelled, fits, named⟩ := exists_fixed looks reads
  obtain ⟨c', spelled', fits', named'⟩ := exists_fixed looks' reads'
  have order : Utf8.bytes a ≤ Utf8.bytes b ↔ x.time ≤ y.time := by
    rw [← named, ← named']
    exact Grammar.fixed_le_iff spelled spelled' fits fits'
  have order' : Utf8.bytes b ≤ Utf8.bytes a ↔ y.time ≤ x.time := by
    rw [← named, ← named']
    exact Grammar.fixed_le_iff spelled' spelled fits' fits
  refine ⟨order, ?_, ?_⟩
  · intro same
    apply Utf8.bytes_injective
    exact List.le_antisymm (order.2 (same ▸ Instant.le_refl _)) (order'.2 (same ▸ Instant.le_refl _))
  · rintro rfl
    exact Instant.le_antisymm (order.1 (List.le_refl _)) (order'.1 (List.le_refl _))

/-- A leap second, and the second after it. -/
theorem leap_second_in_order :
    Utf8.bytes "2016-12-31T23:59:60.999999999Z" ≤ Utf8.bytes "2017-01-01T00:00:00.000000000Z" ∧
      read ("2016-12-31T23:59:60.999999999Z" ++ " " ++ "a") = .ok ⟨"a", ⟨1483228799, 1999999999⟩⟩ ∧
      read ("2017-01-01T00:00:00.000000000Z" ++ " " ++ "b") = .ok ⟨"b", ⟨1483228800, 0⟩⟩ := by
  have reads : read ("2016-12-31T23:59:60.999999999Z" ++ " " ++ "a") =
      .ok ⟨"a", ⟨1483228799, 1999999999⟩⟩ := by rfl
  have reads' : read ("2017-01-01T00:00:00.000000000Z" ++ " " ++ "b") =
      .ok ⟨"b", ⟨1483228800, 0⟩⟩ := by rfl
  exact ⟨(fixed_width_in_order (by decide) (by decide) reads reads').1.2 (by decide), reads, reads'⟩

end Line

end Chronicle
