import Chronicle.Proofs.Grammar
/-!
# What stamps are read

Part by part, both forms of a stamp follow their grammars, so a form reads a text as a written time
where its grammar spells that time so: `Stamp.nanoForm_eq_some_iff`, `Stamp.rfc3339Form_eq_some_iff`.
A line is read if and only if it starts with a spelling of a time that the calendar has, and then it
has that time: `Line.read_eq_ok_iff`.
-/

namespace Chronicle

open Decimal (isDigit)

namespace Stamp

open Scan Grammar

/-! ## Numbers -/

theorem spanDigits_spans (most : Nat) (s : List Char) :
    (spanDigits most s).1 ++ (spanDigits most s).2 = s ∧
      (∀ c ∈ (spanDigits most s).1, isDigit c = true) ∧
      ((spanDigits most s).1.length = most ∨ ¬ DigitFirst (spanDigits most s).2) := by
  induction most generalizing s with
  | zero => exact ⟨rfl, by simp [spanDigits], .inl rfl⟩
  | succ most ih =>
    cases s with
    | nil => exact ⟨rfl, by simp [spanDigits], .inr fun digits => digits.ne_nil rfl⟩
    | cons c s =>
      obtain ⟨whole, each, full⟩ := ih s
      by_cases digit : isDigit c = true
      · simp only [spanDigits, if_pos digit]
        exact ⟨congrArg (c :: ·) whole, by simpa [digit] using each, full.imp_left (congrArg (· + 1))⟩
      · simp only [spanDigits, if_neg digit]
        exact ⟨rfl, by simp, .inr fun digits => digits.ne (by simpa using digit) rfl⟩

theorem number_reads (least most : Nat) :
    (number least most).Reads (Digits least most) (¬ DigitFirst ·) where
  sound {s _ _} reads := by
    obtain ⟨enough, rfl, rfl⟩ := number_eq_some.1 reads
    obtain ⟨whole, each, -⟩ := spanDigits_spans most s
    exact ⟨_, whole.symm, .of each enough (spanDigits_length_le most s)⟩
  complete := by
    rintro _ rest _ ⟨each, low, high⟩ stop
    rw [number_eq_some, spanDigits_append each high (.inr stop)]
    exact ⟨low, rfl, rfl⟩

/-- A row of full length ends by itself. -/
theorem number_of_digits {width n : Nat} {ds : List Char} (digits : Digits width width n ds)
    (rest : List Char) : number width width (ds ++ rest) = some (n, rest) := by
  obtain ⟨each, low, high⟩ := digits
  rw [number_eq_some, spanDigits_append each high (.inl (Nat.le_antisymm high low))]
  exact ⟨low, rfl, rfl⟩

/-! ## The parts of the nanosecond form -/

/-- White space in front of a part. The part itself must not start with any. -/
theorem spaced_reads {α : Type} {x : Scan α} {spells : α → List Char → Prop}
    {stops : List Char → Prop} (reads : x.Reads spells stops)
    (solid : ∀ {a text} rest, spells a text → trimStart (text ++ rest) = text ++ rest) :
    (do blanks; x : Scan α).Reads (Spaced spells) stops where
  sound {s rest a} all := by
    obtain ⟨_, s₁, gap, part⟩ := bind_eq_some all
    obtain ⟨-, rfl⟩ := Prod.mk.inj (Option.some.inj gap)
    obtain ⟨text, parted, spelled⟩ := reads.sound part
    have blank : ∀ c ∈ s.takeWhile isBlank, isBlank c = true := fun c mem =>
      List.all_eq_true.1 List.all_takeWhile c mem
    refine ⟨s.takeWhile isBlank ++ text, ?_, .of blank spelled⟩
    rw [List.append_assoc, ← parted]
    exact (List.takeWhile_append_dropWhile ..).symm
  complete := by
    rintro _ rest a ⟨blank, spelled⟩ stop
    rename_i gap text
    have skipped : blanks (gap ++ text ++ rest) = some ((), text ++ rest) := by
      rw [List.append_assoc, blanks, trimStart, List.dropWhile_append_of_pos blank]
      exact congrArg (fun s => some ((), s)) (solid rest spelled)
    rw [bind_of_eq skipped]
    exact reads.complete spelled stop

theorem field_reads : field.Reads (Spaced (Digits 1 2)) (¬ DigitFirst ·) :=
  spaced_reads (number_reads 1 2) fun rest digits =>
    (digits.first (Nat.le_refl 1) rest).trimStart

/-- A year without the white space in front of it. -/
def bareYear : Scan Int := do
  match ← get with
  | '-' :: rest => set rest; return -((← number 1 rest.length) : Int)
  | '+' :: rest => set rest; return (← number 1 rest.length)
  | _ => return (← number 1 4)

theorem bareYear_hyphen (s : List Char) :
    bareYear ('-' :: s) = (do return -((← number 1 s.length) : Int) : Scan Int) s := rfl

theorem bareYear_plus (s : List Char) :
    bareYear ('+' :: s) = (do return ((← number 1 s.length) : Nat) : Scan Int) s := rfl

theorem bareYear_unsigned {s : List Char} (hyphen : s.head? ≠ some '-') (plus : s.head? ≠ some '+') :
    bareYear s = (do return ((← number 1 4) : Nat) : Scan Int) s := by
  rw [bareYear, bind_of_eq (get_eq s)]
  split
  · simp at hyphen
  · simp at plus
  · rfl

theorem bareYear_reads : bareYear.Reads LaxYear (¬ DigitFirst ·) where
  sound {s rest y} reads := by
    by_cases hyphen : s.head? = some '-'
    · obtain ⟨s₁, rfl⟩ := List.head?_eq_some_iff.1 hyphen
      obtain ⟨n, number, rfl⟩ := return_eq_some.1 (bareYear_hyphen s₁ ▸ reads)
      obtain ⟨ds, rfl, digits⟩ := (number_reads 1 _).sound number
      exact ⟨'-' :: ds, rfl, .behind digits⟩
    by_cases plus : s.head? = some '+'
    · obtain ⟨s₁, rfl⟩ := List.head?_eq_some_iff.1 plus
      obtain ⟨n, number, rfl⟩ := return_eq_some.1 (bareYear_plus s₁ ▸ reads)
      obtain ⟨ds, rfl, digits⟩ := (number_reads 1 _).sound number
      exact ⟨'+' :: ds, rfl, .ahead digits⟩
    · rw [bareYear_unsigned hyphen plus] at reads
      obtain ⟨n, number, rfl⟩ := return_eq_some.1 reads
      obtain ⟨ds, rfl, digits⟩ := (number_reads 1 4).sound number
      exact ⟨ds, rfl, .unsigned digits⟩
  complete := by
    rintro _ rest _ (digits | digits | digits) stop
    · have first := digits.first (Nat.le_refl 1) rest
      rw [bareYear_unsigned (first.head_ne rfl) (first.head_ne rfl)]
      exact return_eq_some.2 ⟨_, (number_reads 1 4).complete digits stop, rfl⟩
    · rw [List.cons_append, bareYear_plus]
      exact return_eq_some.2 ⟨_, (number_reads 1 _).complete (digits.within rest) stop, rfl⟩
    · rw [List.cons_append, bareYear_hyphen]
      exact return_eq_some.2 ⟨_, (number_reads 1 _).complete (digits.within rest) stop, rfl⟩

theorem nineDigits_reads :
    nineDigits.Reads NineDigits fun rest => ¬ DigitFirst rest ∧ rest.head? ≠ some '.' where
  sound {s rest n} reads := by
    by_cases point : s.head? = some '.'
    · obtain ⟨fraction, rfl⟩ := List.head?_eq_some_iff.1 point
      obtain ⟨ds, rfl, digits⟩ := (number_reads 9 9).sound (nineDigits_point fraction ▸ reads)
      exact ⟨'.' :: ds, rfl, .digits digits⟩
    · rw [(fraction_absent point).2] at reads
      obtain ⟨rfl, rfl⟩ := Prod.mk.inj (Option.some.inj reads)
      exact ⟨[], rfl, .absent⟩
  complete := by
    rintro _ rest _ (_ | ⟨digits⟩) ⟨stop, point⟩
    · exact (fraction_absent point).2
    · exact number_of_digits digits rest

/-! ## Offsets -/

theorem sign_eq_some {s rest : List Char} {direction : Int} :
    sign s = some (direction, rest) ↔ ∃ mark, s = mark :: rest ∧ Sign direction mark := by
  constructor
  · intro reads
    unfold sign at reads
    split at reads
    · obtain ⟨rfl, rfl⟩ := Prod.mk.inj (Option.some.inj reads)
      exact ⟨'+', rfl, .plus⟩
    · obtain ⟨rfl, rfl⟩ := Prod.mk.inj (Option.some.inj reads)
      exact ⟨'-', rfl, .hyphen⟩
    · obtain ⟨rfl, rfl⟩ := Prod.mk.inj (Option.some.inj reads)
      exact ⟨'\u2212', rfl, .minus⟩
    · cases reads
  · rintro ⟨mark, rfl, isSign⟩
    cases isSign <;> rfl

theorem offsetMinutes_eq_some {s rest : List Char} {m : Nat} :
    offsetMinutes s = some (m, rest) ↔ number 2 2 s = some (m, rest) ∧ m ≤ 59 := by
  constructor
  · intro reads
    obtain ⟨n, s₁, number, reads⟩ := bind_eq_some reads
    by_cases few : n ≤ 59
    · rw [guard_bind few] at reads
      obtain ⟨rfl, rfl⟩ := Prod.mk.inj (Option.some.inj reads)
      exact ⟨number, few⟩
    · have fails : (guard (n ≤ 59) : Scan Unit) = failure := if_neg few
      rw [fails] at reads
      cases reads
  · rintro ⟨number, few⟩
    rw [offsetMinutes, bind_of_eq number, guard_bind few]
    rfl

theorem separators_reads :
    separators.Reads (fun _ gap => ∀ c ∈ gap, c = ':' ∨ isBlank c = true)
      fun rest => rest = [] ∨ DigitFirst rest where
  sound {s _ _} reads := by
    obtain ⟨-, rfl⟩ := Prod.mk.inj (Option.some.inj reads)
    refine ⟨_, (List.takeWhile_append_dropWhile (p := fun c => c == ':' || isBlank c)).symm, ?_⟩
    intro c mem
    simpa using List.all_eq_true.1 List.all_takeWhile c mem
  complete {gap rest _} free stop := by
    have between : ∀ c ∈ gap, (c == ':' || isBlank c) = true := by simpa using free
    rw [separators, List.dropWhile_append_of_pos between]
    rcases stop with rfl | ⟨c, more, rfl, digit⟩
    · rfl
    · have colon : c ≠ ':' := by
        rintro rfl
        cases digit
      simp [colon, not_blank_of_digit digit]

theorem laxOffset_signed {direction : Int} {mark : Char} (isSign : Sign direction mark)
    (s : List Char) :
    laxOffset (mark :: s) = (do
      let h ← number 2 2
      separators
      match ← get with
      | [] => return direction * (h * 60)
      | _ => return direction * (h * 60 + (← offsetMinutes)) : Scan Int) s := by
  cases isSign <;> rfl

theorem strictOffset_signed {direction : Int} {mark : Char} (isSign : Sign direction mark)
    (s : List Char) :
    strictOffset (mark :: s) = (do
      let h ← number 2 2
      char ':'
      return direction * (h * 60 + (← offsetMinutes)) : Scan Int) s := by
  cases isSign <;> rfl

theorem laxOffset_reads : laxOffset.Reads LaxZone (· = []) where
  sound {s rest o} reads := by
    rw [laxOffset, bind_of_eq (get_eq s)] at reads
    split at reads
    · obtain ⟨rfl, rfl⟩ := Prod.mk.inj (Option.some.inj reads)
      exact ⟨['Z'], rfl, .upper⟩
    · obtain ⟨rfl, rfl⟩ := Prod.mk.inj (Option.some.inj reads)
      exact ⟨['z'], rfl, .lower⟩
    · obtain ⟨direction, s₁, signs, afterSign⟩ := bind_eq_some reads
      obtain ⟨h, s₂, number, afterHours⟩ := bind_eq_some afterSign
      obtain ⟨_, s₃, separated, afterGap⟩ := bind_eq_some afterHours
      obtain ⟨mark, rfl, isSign⟩ := sign_eq_some.1 signs
      obtain ⟨hours, rfl, hour⟩ := (number_reads 2 2).sound number
      obtain ⟨gap, rfl, free⟩ := separators_reads.sound separated
      rw [bind_of_eq (get_eq s₃)] at afterGap
      split at afterGap
      · obtain ⟨rfl, rfl⟩ := Prod.mk.inj (Option.some.inj afterGap)
        exact ⟨mark :: (hours ++ gap), by simp, .hours isSign hour free⟩
      · obtain ⟨m, found, rfl⟩ := return_eq_some.1 afterGap
        obtain ⟨number, few⟩ := offsetMinutes_eq_some.1 found
        obtain ⟨minutes, rfl, minute⟩ := (number_reads 2 2).sound number
        exact ⟨mark :: (hours ++ (gap ++ minutes)), by simp, .minutes isSign hour free minute few⟩
  complete := by
    rintro front _ o zone rfl
    rw [List.append_nil]
    cases zone with
    | upper | lower => rfl
    | @hours direction mark h hours gap isSign hour free =>
      have separated : separators (gap ++ []) = some ((), []) :=
        separators_reads.complete free (.inl rfl)
      rw [List.append_nil] at separated
      rw [laxOffset_signed isSign, bind_of_eq (number_of_digits hour gap), bind_of_eq separated]
      rfl
    | @minutes direction mark h m hours gap minutes isSign hour free minute few =>
      have first := minute.first (by decide) []
      have number := number_of_digits minute []
      rw [List.append_nil] at first number
      have found := offsetMinutes_eq_some.2 ⟨number, few⟩
      have separated : separators (gap ++ minutes) = some ((), minutes) :=
        separators_reads.complete free (.inr first)
      rw [laxOffset_signed isSign, bind_of_eq (number_of_digits hour _), bind_of_eq separated,
        bind_of_eq (get_eq minutes)]
      split
      · exact absurd rfl first.ne_nil
      · exact return_eq_some.2 ⟨m, found, rfl⟩

theorem strictOffset_reads : strictOffset.Reads StrictZone (· = []) where
  sound {s rest o} reads := by
    rw [strictOffset, bind_of_eq (get_eq s)] at reads
    split at reads
    · obtain ⟨rfl, rfl⟩ := Prod.mk.inj (Option.some.inj reads)
      exact ⟨['Z'], rfl, .upper⟩
    · obtain ⟨rfl, rfl⟩ := Prod.mk.inj (Option.some.inj reads)
      exact ⟨['z'], rfl, .lower⟩
    · obtain ⟨direction, s₁, signs, afterSign⟩ := bind_eq_some reads
      obtain ⟨h, s₂, number, afterHours⟩ := bind_eq_some afterSign
      obtain ⟨_, s₃, colon, afterColon⟩ := bind_eq_some afterHours
      obtain ⟨m, found, rfl⟩ := return_eq_some.1 afterColon
      obtain ⟨number', few⟩ := offsetMinutes_eq_some.1 found
      obtain ⟨mark, rfl, isSign⟩ := sign_eq_some.1 signs
      obtain ⟨hours, rfl, hour⟩ := (number_reads 2 2).sound number
      obtain ⟨_, rfl, rfl⟩ := (marks_char ':' _ _).1 colon
      obtain ⟨minutes, rfl, minute⟩ := (number_reads 2 2).sound number'
      exact ⟨mark :: (hours ++ ':' :: minutes), by simp, .minutes isSign hour minute few⟩
  complete := by
    rintro front _ o zone rfl
    rw [List.append_nil]
    cases zone with
    | upper | lower => rfl
    | @minutes direction mark h m hours minutes isSign hour minute few =>
      have number := number_of_digits minute []
      rw [List.append_nil] at number
      have found := offsetMinutes_eq_some.2 ⟨number, few⟩
      rw [strictOffset_signed isSign, bind_of_eq (number_of_digits hour _),
        bind_of_eq (char_cons ':' minutes)]
      exact return_eq_some.2 ⟨m, found, rfl⟩

/-! ## The parts of the RFC 3339 form -/

/-- Nine digits count, or all of them. -/
theorem take_nine (s : List Char) :
    ((spanDigits 9 s).1 ++ (spanDigits 9 s).2.takeWhile isDigit).take 9 = (spanDigits 9 s).1 := by
  obtain ⟨-, -, full | stops⟩ := spanDigits_spans 9 s
  · exact List.take_left' full
  · have noMore : (spanDigits 9 s).2.takeWhile isDigit = [] := by
      generalize (spanDigits 9 s).2 = tail at stops
      cases tail with
      | nil => rfl
      | cons c tail =>
        have other : ¬ isDigit c = true := fun digit => stops ⟨c, tail, rfl, digit⟩
        simp [other]
    rw [noMore, List.append_nil]
    exact List.take_of_length_le (spanDigits_length_le 9 s)

theorem anyDigits_reads :
    anyDigits.Reads Fraction fun rest => ¬ DigitFirst rest ∧ rest.head? ≠ some '.' where
  sound {s rest n} reads := by
    by_cases point : s.head? = some '.'
    · obtain ⟨fraction, rfl⟩ := List.head?_eq_some_iff.1 point
      obtain ⟨whole, each, -⟩ := spanDigits_spans 9 fraction
      have nine := take_nine fraction
      rw [anyDigits_point] at reads
      generalize spanDigits 9 fraction = parted at *
      obtain ⟨ds, tail⟩ := parted
      split at reads
      · cases reads
      · next nonempty =>
        obtain ⟨rfl, rfl⟩ := Prod.mk.inj (Option.some.inj reads)
        refine ⟨'.' :: (ds ++ tail.takeWhile isDigit), ?_, ?_⟩
        · rw [← whole, List.cons_append, List.append_assoc, List.takeWhile_append_dropWhile]
        · have some : ds ++ tail.takeWhile isDigit ≠ [] := by simp [nonempty]
          have digits : ∀ c ∈ ds ++ tail.takeWhile isDigit, isDigit c = true := by
            intro c mem
            rcases List.mem_append.1 mem with counted | ignored
            · exact each c counted
            · exact List.all_eq_true.1 List.all_takeWhile c ignored
          have spelled := Fraction.digits some digits
          rwa [value_nine, nine] at spelled
    · rw [(fraction_absent point).1] at reads
      obtain ⟨rfl, rfl⟩ := Prod.mk.inj (Option.some.inj reads)
      exact ⟨[], rfl, .absent⟩
  complete spelled stop := anyDigits_spelled spelled stop.1 stop.2

/-! ## Both forms -/

/-- The parts of the nanosecond form. -/
def nanoParts : Parts where
  year := do blanks; bareYear
  field := field
  between := char 'T'
  fraction := nineDigits
  zone := do blanks; laxOffset

/-- The parts of the RFC 3339 form. -/
def rfc3339Parts : Parts where
  year := do return ((← number 4 4 : Nat) : Int)
  field := number 2 2
  between := dateEnd
  fraction := anyDigits
  zone := strictOffset

theorem nanoForm_eq : nanoForm = nanoParts.form := rfl

theorem rfc3339Form_eq : rfc3339Form = rfc3339Parts.form := by
  simp [rfc3339Form, rfc3339Parts, Parts.form]

theorem nanoParts_follow : nanoParts.Follow Grammar.nano where
  year := spaced_reads bareYear_reads fun rest year => year.solid rest
  field := field_reads
  between := marks_char 'T'
  fraction := nineDigits_reads
  zone := spaced_reads laxOffset_reads fun rest zone => zone.solid rest
  between_other := by rintro _ rfl; rfl
  fraction_first := by
    rintro _ _ (_ | _)
    · exact .inl rfl
    · exact .inr rfl
  zone_first := LaxZone.first

theorem strictYear_reads : rfc3339Parts.year.Reads StrictYear (¬ DigitFirst ·) where
  sound reads := by
    obtain ⟨n, number, rfl⟩ := return_eq_some.1 reads
    obtain ⟨ds, rfl, digits⟩ := (number_reads 4 4).sound number
    exact ⟨ds, rfl, .of digits⟩
  complete := by
    rintro ds rest _ ⟨digits⟩ stop
    exact return_eq_some.2 ⟨_, (number_reads 4 4).complete digits stop, rfl⟩

theorem marks_dateEnd : dateEnd.Marks Grammar.rfc3339.between := by
  intro s rest
  constructor
  · intro reads
    unfold dateEnd at reads
    split at reads
    · obtain ⟨-, rfl⟩ := Prod.mk.inj (Option.some.inj reads)
      exact ⟨'T', rfl, .inl rfl⟩
    · obtain ⟨-, rfl⟩ := Prod.mk.inj (Option.some.inj reads)
      exact ⟨'t', rfl, .inr (.inl rfl)⟩
    · obtain ⟨-, rfl⟩ := Prod.mk.inj (Option.some.inj reads)
      exact ⟨' ', rfl, .inr (.inr rfl)⟩
    · cases reads
  · rintro ⟨_, rfl, rfl | rfl | rfl⟩ <;> rfl

theorem rfc3339Parts_follow : rfc3339Parts.Follow Grammar.rfc3339 where
  year := strictYear_reads
  field := number_reads 2 2
  between := marks_dateEnd
  fraction := anyDigits_reads
  zone := strictOffset_reads
  between_other := by rintro _ (rfl | rfl | rfl) <;> rfl
  fraction_first := by
    rintro _ _ (_ | _)
    · exact .inl rfl
    · exact .inr rfl
  zone_first := StrictZone.first

theorem nanoForm_eq_some_iff {s rest : List Char} {c : Civil} :
    nanoForm s = some (c, rest) ↔ Grammar.nano.Spells c s ∧ rest = [] := by
  rw [nanoForm_eq]
  exact nanoParts_follow.form_eq_some_iff

theorem rfc3339Form_eq_some_iff {s rest : List Char} {c : Civil} :
    rfc3339Form s = some (c, rest) ↔ Grammar.rfc3339.Spells c s ∧ rest = [] := by
  rw [rfc3339Form_eq]
  exact rfc3339Parts_follow.form_eq_some_iff

theorem read?_of_nanoForm {c : Civil} {t : Instant} {token rest : List Char}
    (reads : nanoForm token = some (c, rest)) (names : c.instant? = some t) :
    read? token = some t := by
  simp [read?, readNano?, instantIn?, reads, names]

/-- A stamp is a spelling, in one form or the other, of a time that names an instant. -/
theorem read?_eq_some_iff {s : List Char} {t : Instant} :
    read? s = some t ↔
      ∃ c, (Grammar.nano.Spells c s ∨ Grammar.rfc3339.Spells c s) ∧ c.instant? = some t := by
  constructor
  · intro reads
    rcases Option.or_eq_some_iff.1 reads with lax | ⟨-, strict⟩
    · obtain ⟨⟨c, rest⟩, form, names⟩ := Option.bind_eq_some_iff.1 lax
      exact ⟨c, .inl (nanoForm_eq_some_iff.1 form).1, names⟩
    · obtain ⟨⟨c, rest⟩, form, names⟩ := Option.bind_eq_some_iff.1 strict
      exact ⟨c, .inr (rfc3339Form_eq_some_iff.1 form).1, names⟩
  · rintro ⟨c, lax | strict, names⟩
    · exact read?_of_nanoForm (nanoForm_eq_some_iff.2 ⟨lax, rfl⟩) names
    · exact read?_of_rfc3339Form (rfc3339Form_eq_some_iff.2 ⟨strict, rfl⟩) names

end Stamp

/-! ## Reading lines -/

/-- The years that can be told apart, in UTC. -/
def Instant.IsInRange (t : Instant) : Prop :=
  Civil.yearStart Civil.firstYear ≤ t.seconds ∧ t.seconds < Civil.yearStart (Civil.lastYear + 1)

theorem Civil.instant?_eq_some_iff {c : Civil} {t : Instant} :
    c.instant? = some t ↔ c.Fits ∧ t.IsInRange ∧ c.instant = t := by
  rw [instant?, Option.ite_none_right_eq_some]
  constructor
  · rintro ⟨⟨fits, inRange⟩, named⟩
    obtain rfl := Option.some.inj named
    exact ⟨fits, inRange, rfl⟩
  · rintro ⟨fits, inRange, rfl⟩
    exact ⟨⟨fits, inRange⟩, rfl⟩

namespace Line

theorem split_eq_some_iff {s token message : List Char} :
    split s = some (token, message) ↔ s = token ++ ' ' :: message ∧ ' ' ∉ token := by
  constructor
  · intro parted
    fun_induction split s generalizing token with
    | case1 => cases parted
    | case2 rest =>
      obtain ⟨rfl, rfl⟩ := Prod.mk.inj (Option.some.inj parted)
      exact ⟨rfl, List.not_mem_nil⟩
    | case3 c rest other ih =>
      obtain ⟨⟨front, more⟩, later, same⟩ := Option.map_eq_some_iff.1 parted
      obtain ⟨rfl, rfl⟩ := Prod.mk.inj same
      obtain ⟨rfl, solid⟩ := ih later
      exact ⟨rfl, by simpa [solid] using fun same => other same.symm⟩
  · rintro ⟨rfl, solid⟩
    exact split_append solid message

theorem read_eq_ok {raw : String} {line : Line} :
    read raw = .ok line ↔ ∃ token message, split raw.toList = some (token, message) ∧
      Stamp.read? token = some line.time ∧ String.ofList message = line.message := by
  constructor
  · intro reads
    unfold read at reads
    split at reads
    · cases reads
    · next token message parted =>
      split at reads
      · cases reads
      · next time named =>
        obtain rfl := Except.ok.inj reads
        exact ⟨token, message, parted, named, rfl⟩
  · rintro ⟨token, message, parted, named, same⟩
    simp only [read, parted, named, same]

/-- A line is read if and only if it is a token without a space, a space and the message, and the
whole token spells, in one of the two forms, a time that the calendar has, in the years that can be
told apart. The time of the line is then what was written, less the offset: a clock with that offset
shows it, and a second 60 is the second 59 with a thousand million nanoseconds more. -/
theorem read_eq_ok_iff {raw message : String} {t : Instant} :
    read raw = .ok ⟨message, t⟩ ↔ ∃ (token : String) (c : Civil),
      raw = token ++ " " ++ message ∧ ' ' ∉ token.toList ∧
      (Grammar.nano.Spells c token.toList ∨ Grammar.rfc3339.Spells c token.toList) ∧
      c.Fits ∧ t.IsInRange ∧ c.instant = t ∧ t.civil c.offset = c := by
  rw [read_eq_ok]
  constructor
  · rintro ⟨token, text, parted, reads, rfl⟩
    obtain ⟨whole, solid⟩ := split_eq_some_iff.1 parted
    obtain ⟨c, spelled, names⟩ := Stamp.read?_eq_some_iff.1 reads
    obtain ⟨fits, inRange, rfl⟩ := Civil.instant?_eq_some_iff.1 names
    refine ⟨String.ofList token, c, ?_, ?_, ?_, fits, inRange, rfl, Instant.civil_instant fits⟩
    · apply String.toList_injective
      simp [whole]
    · rwa [String.toList_ofList]
    · rwa [String.toList_ofList]
  · rintro ⟨token, c, rfl, solid, spelled, fits, inRange, named, -⟩
    refine ⟨token.toList, message.toList, ?_, ?_, String.ofList_toList⟩
    · rw [String.toList_append, String.toList_append, List.append_assoc]
      exact split_append solid message.toList
    · exact Stamp.read?_eq_some_iff.2
        ⟨c, spelled, Civil.instant?_eq_some_iff.2 ⟨fits, inRange, named⟩⟩

/-- A day that the calendar does not have is no later day. -/
example : read "2023-02-29T10:00:00Z no leap day" = .error (.badStamp "2023-02-29T10:00:00Z") := rfl

end Line

end Chronicle
