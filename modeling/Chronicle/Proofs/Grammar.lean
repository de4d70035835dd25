import Chronicle.Proofs.Spellings
/-!
# The grammar of stamps

`Grammar.nano` and `Grammar.rfc3339` say how a time may be written in the two forms of a stamp. A
scanner that is put together of scanners for the parts of a grammar reads what the grammar spells and
nothing else: `Stamp.Parts.Follow.form_eq_some_iff`.
-/

namespace Chronicle

open Decimal (isDigit)
open Stamp (DigitFirst)

/-! ## What scanners read -/

namespace Scan

variable {α β : Type}

/-- The scanner takes nothing off a text but what spells something, and it takes that where the rest
lets it stop. -/
structure Reads (x : Scan α) (spells : α → List Char → Prop) (stops : List Char → Prop) : Prop where
  sound {s rest : List Char} {a : α} (reads : x s = some (a, rest)) :
    ∃ front, s = front ++ rest ∧ spells a front
  complete {front rest : List Char} {a : α} (spelled : spells a front) (stop : stops rest) :
    x (front ++ rest) = some (a, rest)

theorem return_eq_some {x : Scan α} {f : α → β} {s rest : List Char} {b : β} :
    (do return f (← x) : Scan β) s = some (b, rest) ↔ ∃ a, x s = some (a, rest) ∧ f a = b := by
  constructor
  · intro all
    obtain ⟨a, _, reads, given⟩ := bind_eq_some all
    obtain ⟨rfl, rfl⟩ := Prod.mk.inj (Option.some.inj given)
    exact ⟨a, reads, rfl⟩
  · rintro ⟨a, reads, rfl⟩
    rw [bind_of_eq reads]
    rfl

/-- The scanner takes one character of a kind. -/
def Marks (m : Scan Unit) (is : Char → Prop) : Prop :=
  ∀ s rest, m s = some ((), rest) ↔ ∃ mark, s = mark :: rest ∧ is mark

theorem done_eq_some {s rest : List Char} : done s = some ((), rest) ↔ s = [] ∧ rest = [] := by
  cases s <;> simp [done, eq_comm]

theorem marks_char (c : Char) : Marks (char c) (· = c) := by
  intro s rest
  cases s with
  | nil => simp [char]
  | cons d s => simp [char, and_comm]

/-- A part that ends in front of a mark, and what comes after the mark. -/
theorem Reads.then_mark {x : Scan α} {spells : α → List Char → Prop} {m : Scan Unit}
    {is : Char → Prop} (reads : x.Reads spells (¬ DigitFirst ·)) (marks : m.Marks is)
    (other : ∀ c, is c → isDigit c = false) {f : α → Scan β} {s : List Char} {r : β × List Char} :
    (x >>= fun a => m >>= fun _ => f a) s = some r ↔
      ∃ a front mark more, s = front ++ mark :: more ∧ spells a front ∧ is mark ∧
        f a more = some r := by
  constructor
  · intro all
    obtain ⟨a, s₁, first, all⟩ := bind_eq_some all
    obtain ⟨_, s₂, second, last⟩ := bind_eq_some all
    obtain ⟨front, rfl, spelled⟩ := reads.sound first
    obtain ⟨mark, rfl, kind⟩ := (marks _ _).1 second
    exact ⟨a, front, mark, s₂, rfl, spelled, kind, last⟩
  · rintro ⟨a, front, mark, more, rfl, spelled, kind, last⟩
    have stop : ¬ DigitFirst (mark :: more) := fun digits => digits.ne (other mark kind) rfl
    rw [bind_of_eq (reads.complete spelled stop), bind_of_eq ((marks _ _).2 ⟨mark, rfl, kind⟩)]
    exact last

theorem Reads.then_char {x : Scan α} {spells : α → List Char → Prop} {c : Char}
    (reads : x.Reads spells (¬ DigitFirst ·)) (other : isDigit c = false) {f : α → Scan β}
    {s : List Char} {r : β × List Char} :
    (x >>= fun a => char c >>= fun _ => f a) s = some r ↔
      ∃ a front more, s = front ++ c :: more ∧ spells a front ∧ f a more = some r := by
  rw [reads.then_mark (marks_char c) (by rintro _ rfl; exact other)]
  constructor
  · rintro ⟨a, front, _, more, parted, spelled, rfl, last⟩
    exact ⟨a, front, more, parted, spelled, last⟩
  · rintro ⟨a, front, more, parted, spelled, last⟩
    exact ⟨a, front, c, more, parted, spelled, rfl, last⟩

end Scan

/-! ## Grammars -/

/-- How each part of a time is written in a form. -/
structure Grammar where
  year : Int → List Char → Prop
  /-- A month, a day, an hour, a minute or a second. -/
  field : Nat → List Char → Prop
  /-- What stands between the date and the time of day. -/
  between : Char → Prop
  fraction : Nat → List Char → Prop
  zone : Int → List Char → Prop

namespace Grammar

/-- A text spells a written time. -/
inductive Spells (g : Grammar) (c : Civil) : List Char → Prop where
  | of {year month day hour minute second fraction zone : List Char} {mark : Char}
      (y : g.year c.date.year year) (mo : g.field c.date.month month) (d : g.field c.date.day day)
      (between : g.between mark) (h : g.field c.hour hour) (mi : g.field c.minute minute)
      (s : g.field c.second second) (n : g.fraction c.nanos fraction) (o : g.zone c.offset zone) :
      Spells g c (year ++ '-' :: (month ++ '-' :: (day ++ mark :: (hour ++ ':' :: (minute ++
        ':' :: (second ++ (fraction ++ zone)))))))

/-- A number in digits, at least `least` and at most `most` of them. -/
inductive Digits (least most : Nat) : Nat → List Char → Prop where
  | of {ds : List Char} (each : ∀ c ∈ ds, isDigit c = true) (low : least ≤ ds.length)
      (high : ds.length ≤ most) : Digits least most (Decimal.value ds) ds

/-- White space may stand in front. -/
inductive Spaced {α : Type} (spells : α → List Char → Prop) (a : α) : List Char → Prop where
  | of {gap text : List Char} (blank : ∀ c ∈ gap, isBlank c = true) (spelled : spells a text) :
      Spaced spells a (gap ++ text)

/-- A year of the nanosecond form: without a sign it has up to four digits. -/
inductive LaxYear : Int → List Char → Prop where
  | unsigned {n : Nat} {ds : List Char} (digits : Digits 1 4 n ds) : LaxYear n ds
  | ahead {n most : Nat} {ds : List Char} (digits : Digits 1 most n ds) : LaxYear n ('+' :: ds)
  | behind {n most : Nat} {ds : List Char} (digits : Digits 1 most n ds) : LaxYear (-n) ('-' :: ds)

/-- A fraction of the nanosecond form: nine digits or nothing. -/
inductive NineDigits : Nat → List Char → Prop where
  | absent : NineDigits 0 []
  | digits {n : Nat} {ds : List Char} (nine : Digits 9 9 n ds) : NineDigits n ('.' :: ds)

/-- The signs of an offset. -/
inductive Sign : Int → Char → Prop where
  | plus : Sign 1 '+'
  | hyphen : Sign (-1) '-'
  | minus : Sign (-1) '\u2212'

/-- An offset of the nanosecond form: minutes may be missing, and any colons and white space may stand
in front of them. -/
inductive LaxZone : Int → List Char → Prop where
  | upper : LaxZone 0 ['Z']
  | lower : LaxZone 0 ['z']
  | hours {direction : Int} {mark : Char} {h : Nat} {hours gap : List Char}
      (sign : Sign direction mark) (hour : Digits 2 2 h hours)
      (free : ∀ c ∈ gap, c = ':' ∨ isBlank c = true) :
      LaxZone (direction * (h * 60)) (mark :: (hours ++ gap))
  | minutes {direction : Int} {mark : Char} {h m : Nat} {hours gap minutes : List Char}
      (sign : Sign direction mark) (hour : Digits 2 2 h hours)
      (free : ∀ c ∈ gap, c = ':' ∨ isBlank c = true) (minute : Digits 2 2 m minutes)
      (few : m ≤ 59) :
      LaxZone (direction * (h * 60 + m)) (mark :: (hours ++ (gap ++ minutes)))

/-- An offset of the RFC 3339 form. -/
inductive StrictZone : Int → List Char → Prop where
  | upper : StrictZone 0 ['Z']
  | lower : StrictZone 0 ['z']
  | minutes {direction : Int} {mark : Char} {h m : Nat} {hours minutes : List Char}
      (sign : Sign direction mark) (hour : Digits 2 2 h hours) (minute : Digits 2 2 m minutes)
      (few : m ≤ 59) :
      StrictZone (direction * (h * 60 + m)) (mark :: (hours ++ ':' :: minutes))

/-- A year of the RFC 3339 form. -/
inductive StrictYear : Int → List Char → Prop where
  | of {n : Nat} {ds : List Char} (digits : Digits 4 4 n ds) : StrictYear n ds

variable {least most n : Nat} {ds : List Char}

theorem Digits.first (digits : Digits least most n ds) (some : 1 ≤ least) (rest : List Char) :
    DigitFirst (ds ++ rest) := by
  obtain ⟨each, low, -⟩ := digits
  cases ds with
  | nil => exact absurd (Nat.le_trans some low) (by simp)
  | cons c ds => exact ⟨c, ds ++ rest, rfl, each c List.mem_cons_self⟩

theorem Digits.within (digits : Digits least most n ds) (rest : List Char) :
    Digits least (ds ++ rest).length n ds := by
  obtain ⟨each, low, -⟩ := digits
  exact .of each low (by simp)

theorem LaxYear.solid {y : Int} {text : List Char} (year : LaxYear y text) (rest : List Char) :
    trimStart (text ++ rest) = text ++ rest := by
  cases year with
  | unsigned digits => exact (digits.first (Nat.le_refl 1) rest).trimStart
  | ahead | behind => rfl

theorem LaxZone.solid {o : Int} {text : List Char} (zone : LaxZone o text) (rest : List Char) :
    trimStart (text ++ rest) = text ++ rest := by
  cases zone with
  | upper | lower => rfl
  | hours sign | minutes sign => cases sign <;> rfl

/-- What an offset starts with cannot be taken for more of a number or for a fraction. -/
theorem LaxZone.first {o : Int} {text : List Char} (zone : Spaced LaxZone o text) :
    ¬ DigitFirst text ∧ text.head? ≠ some '.' := by
  obtain ⟨blank, zone⟩ := zone
  rename_i gap text
  cases gap with
  | nil =>
    cases zone with
    | upper | lower => exact ⟨fun digits => digits.ne rfl rfl, by simp⟩
    | hours sign | minutes sign => cases sign <;> exact ⟨fun digits => digits.ne rfl rfl, by simp⟩
  | cons c gap =>
    have isGap := blank c List.mem_cons_self
    refine ⟨?_, ?_⟩
    · rintro ⟨_, _, same, digit⟩
      obtain ⟨rfl, -⟩ := List.cons.inj same
      simp [Stamp.not_blank_of_digit digit] at isGap
    · rintro same
      obtain rfl : c = '.' := by simpa using same
      cases isGap

theorem StrictZone.first {o : Int} {text : List Char} (zone : StrictZone o text) :
    ¬ DigitFirst text ∧ text.head? ≠ some '.' := by
  cases zone with
  | upper | lower => exact ⟨fun digits => digits.ne rfl rfl, by simp⟩
  | minutes sign => cases sign <;> exact ⟨fun digits => digits.ne rfl rfl, by simp⟩

/-- The nanosecond form: white space in front of each number and of the offset, free widths, but
nine digits of a second or none. -/
def nano : Grammar where
  year := Spaced LaxYear
  field := Spaced (Digits 1 2)
  between := (· = 'T')
  fraction := NineDigits
  zone := Spaced LaxZone

/-- The RFC 3339 form: fixed widths and any number of digits of a second. -/
def rfc3339 : Grammar where
  year := StrictYear
  field := Digits 2 2
  between c := c = 'T' ∨ c = 't' ∨ c = ' '
  fraction := Stamp.Fraction
  zone := StrictZone

end Grammar

namespace Stamp

open Scan Grammar

/-! ## Forms by their parts -/

/-- Scanners for the parts of a written time. -/
structure Parts where
  year : Scan Int
  field : Scan Nat
  between : Scan Unit
  fraction : Scan Nat
  zone : Scan Int

/-- A whole text, part by part. -/
def Parts.form (p : Parts) : Scan Civil := do
  let y ← p.year
  char '-'
  let mo ← p.field
  char '-'
  let d ← p.field
  p.between
  let h ← p.field
  char ':'
  let mi ← p.field
  char ':'
  let s ← p.field
  let n ← p.fraction
  let o ← p.zone
  done
  return ⟨⟨y, mo, d⟩, h, mi, s, n, o⟩

/-- The scanners of the parts read what the grammar spells, and no part can be taken for more of the
one before it. -/
structure Parts.Follow (p : Parts) (g : Grammar) : Prop where
  year : p.year.Reads g.year (¬ DigitFirst ·)
  field : p.field.Reads g.field (¬ DigitFirst ·)
  between : p.between.Marks g.between
  fraction : p.fraction.Reads g.fraction fun rest => ¬ DigitFirst rest ∧ rest.head? ≠ some '.'
  zone : p.zone.Reads g.zone (· = [])
  between_other {c : Char} : g.between c → isDigit c = false
  fraction_first {n : Nat} {text : List Char} : g.fraction n text →
    text = [] ∨ text.head? = some '.'
  zone_first {o : Int} {text : List Char} : g.zone o text →
    ¬ DigitFirst text ∧ text.head? ≠ some '.'

namespace Parts.Follow

variable {p : Parts} {g : Grammar}

/-- The end of a stamp: seconds, a fraction, an offset, and nothing after it. -/
theorem end_iff {α : Type} (follow : p.Follow g) {f : Nat → Nat → Int → α} {s rest : List Char}
    {a : α} :
    (do let sec ← p.field
        let n ← p.fraction
        let o ← p.zone
        done
        return f sec n o : Scan α) s = some (a, rest) ↔
      ∃ sec n o second fraction zone, s = second ++ (fraction ++ zone) ∧ g.field sec second ∧
        g.fraction n fraction ∧ g.zone o zone ∧ f sec n o = a ∧ rest = [] := by
  constructor
  · intro all
    obtain ⟨sec, s₁, first, all⟩ := bind_eq_some all
    obtain ⟨n, s₂, second, all⟩ := bind_eq_some all
    obtain ⟨o, s₃, third, all⟩ := bind_eq_some all
    obtain ⟨_, s₄, ended, given⟩ := bind_eq_some all
    obtain ⟨rfl, rfl⟩ := done_eq_some.1 ended
    obtain ⟨rfl, rfl⟩ := Prod.mk.inj (Option.some.inj given)
    obtain ⟨seconds, rfl, spelled⟩ := follow.field.sound first
    obtain ⟨fraction, rfl, nanos⟩ := follow.fraction.sound second
    obtain ⟨zone, rfl, offset⟩ := follow.zone.sound third
    exact ⟨sec, n, o, seconds, fraction, zone, by rw [List.append_nil], spelled, nanos, offset,
      rfl, rfl⟩
  · rintro ⟨sec, n, o, seconds, fraction, zone, rfl, spelled, nanos, offset, rfl, rfl⟩
    have last := follow.zone_first offset
    have stop : ¬ DigitFirst (fraction ++ zone) := by
      rcases follow.fraction_first nanos with rfl | point
      · exact last.1
      · obtain ⟨more, rfl⟩ := List.head?_eq_some_iff.1 point
        exact fun digits => digits.ne rfl rfl
    have whole := follow.zone.complete offset rfl
    rw [List.append_nil] at whole
    rw [bind_of_eq (follow.field.complete spelled stop),
      bind_of_eq (follow.fraction.complete nanos last), bind_of_eq whole,
      bind_of_eq (done_eq_some.2 ⟨rfl, rfl⟩)]
    rfl

/-- A form reads what its grammar spells and nothing else. -/
theorem form_eq_some_iff (follow : p.Follow g) {s rest : List Char} {c : Civil} :
    p.form s = some (c, rest) ↔ g.Spells c s ∧ rest = [] := by
  rw [Parts.form, follow.year.then_char rfl]
  constructor
  · rintro ⟨y, year, s₁, rfl, isYear, afterYear⟩
    obtain ⟨mo, month, s₂, rfl, isMonth, afterMonth⟩ := (follow.field.then_char rfl).1 afterYear
    obtain ⟨d, day, mark, s₃, rfl, isDay, isMark, afterDate⟩ :=
      (follow.field.then_mark follow.between fun _ => follow.between_other).1 afterMonth
    obtain ⟨h, hour, s₄, rfl, isHour, afterHour⟩ := (follow.field.then_char rfl).1 afterDate
    obtain ⟨mi, minute, s₅, rfl, isMinute, afterMinute⟩ := (follow.field.then_char rfl).1 afterHour
    obtain ⟨sec, n, o, second, fraction, zone, rfl, isSecond, isFraction, isZone, rfl, rfl⟩ :=
      follow.end_iff.1 afterMinute
    exact ⟨.of isYear isMonth isDay isMark isHour isMinute isSecond isFraction isZone, rfl⟩
  · rintro ⟨⟨isYear, isMonth, isDay, isMark, isHour, isMinute, isSecond, isFraction, isZone⟩, rfl⟩
    refine ⟨_, _, _, rfl, isYear, ?_⟩
    refine (follow.field.then_char rfl).2 ⟨_, _, _, rfl, isMonth, ?_⟩
    refine (follow.field.then_mark follow.between fun _ => follow.between_other).2
      ⟨_, _, _, _, rfl, isDay, isMark, ?_⟩
    refine (follow.field.then_char rfl).2 ⟨_, _, _, rfl, isHour, ?_⟩
    refine (follow.field.then_char rfl).2 ⟨_, _, _, rfl, isMinute, ?_⟩
    exact follow.end_iff.2 ⟨_, _, _, _, _, _, rfl, isSecond, isFraction, isZone, rfl, rfl⟩

end Parts.Follow

end Stamp

end Chronicle
