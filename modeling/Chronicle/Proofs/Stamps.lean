import Chronicle.Proofs.Keys
import Chronicle.Time.Stamp
/-!
# The two forms of a stamp

The nanosecond form is laxer than the RFC 3339 form in some places and stricter in others. Where the
RFC 3339 form reads a text, the nanosecond form reads the same time from it, or none:
`Stamp.forms_agree`. So it does not matter which of them is tried first: `Stamp.either_form_first`.
-/

namespace Chronicle

/-! ## Scanners side by side -/

namespace Scan

variable {α β : Type}

theorem bind_eq_some {x : Scan α} {f : α → Scan β} {s rest : List Char} {b : β}
    (h : (x >>= f) s = some (b, rest)) :
    ∃ a more, x s = some (a, more) ∧ f a more = some (b, rest) := by
  obtain ⟨⟨a, more⟩, first, second⟩ := Option.bind_eq_some_iff.1 h
  exact ⟨a, more, first, second⟩

theorem bind_of_none {x : Scan α} {f : α → Scan β} {s : List Char} (fails : x s = none) :
    (x >>= f) s = none := by
  show Option.bind (x s) (fun r => f r.1 r.2) = none
  rw [fails]
  rfl

/-- What `x` reads, `y` reads alike, or it fails. -/
def Agrees (x y : Scan α) : Prop :=
  ∀ s a rest, x s = some (a, rest) → y s = none ∨ y s = some (a, rest)

theorem Agrees.refl (x : Scan α) : Agrees x x := fun _ _ _ reads => .inr reads

theorem Agrees.bind {x y : Scan α} {f g : α → Scan β} (first : Agrees x y)
    (second : ∀ a, Agrees (f a) (g a)) : Agrees (x >>= f) (y >>= g) := by
  intro s b rest reads
  obtain ⟨a, more, head, tail⟩ := bind_eq_some reads
  rcases first s a more head with fails | alike
  · exact .inl (bind_of_none fails)
  · rw [bind_of_eq alike]
    exact second a more b rest tail

/-- It does not matter whether a number is read as a natural number or as an integer. -/
theorem Agrees.bind_cast {x : Scan Nat} {y : Scan Int} {f : Nat → Scan β} {g : Int → Scan β}
    (first : Agrees (x >>= fun n => pure (n : Int)) y) (second : ∀ n : Nat, Agrees (f n) (g n)) :
    Agrees (x >>= f) (y >>= g) := by
  intro s b rest reads
  obtain ⟨n, more, head, tail⟩ := bind_eq_some reads
  rcases first s n more (bind_of_eq head) with fails | alike
  · exact .inl (bind_of_none fails)
  · rw [bind_of_eq alike]
    exact second n more b rest tail

end Scan

namespace Stamp

open Scan

/-! ## Digits in front -/

/-- The text starts with a digit. -/
def DigitFirst (s : List Char) : Prop := ∃ c rest, s = c :: rest ∧ Decimal.isDigit c = true

theorem not_blank_of_digit {c : Char} (digit : Decimal.isDigit c = true) : isBlank c = false := by
  simp only [Decimal.isDigit, Bool.and_eq_true, decide_eq_true_eq, Char.le_def,
    UInt32.le_iff_toNat_le] at digit
  have low : 48 ≤ c.toNat := digit.1
  have high : c.toNat ≤ 57 := digit.2
  simp [isBlank]
  omega

theorem DigitFirst.trimStart {s : List Char} (digits : DigitFirst s) : trimStart s = s := by
  obtain ⟨c, rest, rfl, digit⟩ := digits
  simp [Chronicle.trimStart, not_blank_of_digit digit]

theorem DigitFirst.ne {c : Char} {s rest : List Char} (digits : DigitFirst s)
    (other : Decimal.isDigit c = false) : s ≠ c :: rest := by
  rintro rfl
  obtain ⟨_, _, same, digit⟩ := digits
  obtain ⟨rfl, -⟩ := List.cons.inj same
  simp [other] at digit

theorem DigitFirst.head_ne {c : Char} {s : List Char} (digits : DigitFirst s)
    (other : Decimal.isDigit c = false) : s.head? ≠ some c := by
  intro first
  obtain ⟨rest, rfl⟩ := List.head?_eq_some_iff.1 first
  exact digits.ne other rfl

theorem DigitFirst.ne_nil {s : List Char} (digits : DigitFirst s) : s ≠ [] := by
  obtain ⟨c, rest, rfl, -⟩ := digits
  exact List.cons_ne_nil c rest

theorem DigitFirst.sign {s : List Char} (digits : DigitFirst s) : sign s = none := by
  unfold Stamp.sign
  split
  · exact absurd rfl (digits.ne rfl)
  · exact absurd rfl (digits.ne rfl)
  · exact absurd rfl (digits.ne rfl)
  · rfl

theorem number_eq_some {least most n : Nat} {s rest : List Char} :
    number least most s = some (n, rest) ↔ least ≤ (spanDigits most s).1.length ∧
      Decimal.value (spanDigits most s).1 = n ∧ (spanDigits most s).2 = rest := by
  unfold number
  by_cases enough : least ≤ (spanDigits most s).1.length <;> simp [enough]

theorem digitFirst_of_number {least most n : Nat} {s rest : List Char} (some : 1 ≤ least)
    (reads : number least most s = .some (n, rest)) : DigitFirst s := by
  have taken : 1 ≤ (spanDigits most s).1.length := Nat.le_trans some (number_eq_some.1 reads).1
  unfold spanDigits at taken
  split at taken
  · split at taken
    · exact ⟨_, _, rfl, ‹_›⟩
    · simp at taken
  · simp at taken

/-- Fewer digits are enough where more are there. -/
theorem number_of_least {least least' most n : Nat} {s rest : List Char} (fewer : least' ≤ least)
    (reads : number least most s = some (n, rest)) : number least' most s = some (n, rest) := by
  rw [number_eq_some] at *
  exact ⟨Nat.le_trans fewer reads.1, reads.2⟩

theorem blanks_of_trimmed {s : List Char} (trimmed : trimStart s = s) :
    blanks s = some ((), s) := by
  rw [blanks, trimmed]

theorem get_eq (s : List Char) : (get : Scan (List Char)) s = some (s, s) := rfl

/-! ## Dates and times of day -/

theorem field_agrees : Agrees (number 2 2) field := by
  intro s n rest reads
  have digits := digitFirst_of_number (by decide) reads
  rw [field, bind_of_eq (blanks_of_trimmed digits.trimStart)]
  exact .inr (number_of_least (by decide) reads)

theorem year_agrees : Agrees (number 4 4 >>= fun y => pure (y : Int)) year := by
  intro s y rest reads
  obtain ⟨n, more, number, given⟩ := bind_eq_some reads
  have digits := digitFirst_of_number (by decide) number
  rw [year, bind_of_eq (blanks_of_trimmed digits.trimStart), bind_of_eq (get_eq s)]
  split
  · exact absurd rfl (digits.ne rfl)
  · exact absurd rfl (digits.ne rfl)
  · rw [bind_of_eq (number_of_least (by decide) number)]
    exact .inr given

theorem dateEnd_agrees : Agrees dateEnd (char 'T') := by
  intro s a rest reads
  unfold dateEnd at reads
  split at reads
  · exact .inr reads
  · exact .inl rfl
  · exact .inl rfl
  · cases reads

/-! ## Fractions and offsets -/

theorem trimStart_of_sign {s rest : List Char} {sign : Int}
    (reads : Stamp.sign s = some (sign, rest)) : trimStart s = s := by
  unfold Stamp.sign at reads
  split at reads
  · rfl
  · rfl
  · rfl
  · cases reads

theorem separators_colon {s : List Char} (digits : DigitFirst s) :
    separators (':' :: s) = some ((), s) := by
  obtain ⟨c, rest, rfl, digit⟩ := digits
  have colon : c ≠ ':' := by
    rintro rfl
    cases digit
  simp [separators, colon, not_blank_of_digit digit]

/-- What is an offset to the RFC 3339 form is the same offset to the other. -/
theorem laxOffset_of_strictOffset {s rest : List Char} {o : Int}
    (reads : strictOffset s = some (o, rest)) :
    trimStart s = s ∧ laxOffset s = some (o, rest) := by
  rw [strictOffset, bind_of_eq (get_eq s)] at reads
  rw [laxOffset, bind_of_eq (get_eq s)]
  split at reads
  · exact ⟨rfl, reads⟩
  · exact ⟨rfl, reads⟩
  · obtain ⟨sign, s₁, signs, reads⟩ := bind_eq_some reads
    obtain ⟨h, s₂, hours, reads⟩ := bind_eq_some reads
    obtain ⟨_, s₃, colon, reads⟩ := bind_eq_some reads
    obtain ⟨m, s₄, minutes, given⟩ := bind_eq_some reads
    obtain ⟨_, _, number, -⟩ := bind_eq_some minutes
    have digits := digitFirst_of_number (by decide) number
    obtain rfl : s₂ = ':' :: s₃ := by
      unfold char at colon
      split at colon
      · split at colon <;> simp_all
      · cases colon
    refine ⟨trimStart_of_sign signs, ?_⟩
    rw [bind_of_eq signs, bind_of_eq hours, bind_of_eq (separators_colon digits),
      bind_of_eq (get_eq s₃)]
    split
    · exact absurd rfl digits.ne_nil
    · rw [bind_of_eq minutes]
      exact given

theorem DigitFirst.laxOffset {s : List Char} (digits : DigitFirst s) : laxOffset s = none := by
  rw [Stamp.laxOffset, bind_of_eq (get_eq s)]
  split
  · exact absurd rfl (digits.ne rfl)
  · exact absurd rfl (digits.ne rfl)
  · exact bind_of_none digits.sign

theorem spanDigits_length_le (most : Nat) (s : List Char) :
    (spanDigits most s).1.length ≤ most := by
  induction most generalizing s with
  | zero => exact Nat.zero_le _
  | succ most ih =>
    cases s with
    | nil => exact Nat.zero_le _
    | cons c rest =>
      unfold spanDigits
      split
      · exact Nat.succ_le_succ (ih rest)
      · exact Nat.zero_le _

theorem nineDigits_point (s : List Char) : nineDigits ('.' :: s) = number 9 9 s := rfl

theorem anyDigits_point (s : List Char) : anyDigits ('.' :: s) =
    if (spanDigits 9 s).1 = [] then none
    else some (Decimal.value (spanDigits 9 s).1 * Nat.pow 10 (9 - (spanDigits 9 s).1.length),
      (spanDigits 9 s).2.dropWhile Decimal.isDigit) := by
  rw [anyDigits, bind_of_eq (get_eq ('.' :: s))]
  by_cases empty : (spanDigits 9 s).1 = []
  · have fails : (guard ((spanDigits 9 s).1 ≠ []) : Scan Unit) = failure :=
      if_neg fun nonempty => nonempty empty
    rw [if_pos empty]
    exact bind_of_none (by rw [fails]; rfl)
  · rw [if_neg empty]
    show (do guard ((spanDigits 9 s).1 ≠ []); _ : Scan Nat) _ = _
    rw [guard_bind empty]
    rfl

theorem fraction_absent {s : List Char} (absent : s.head? ≠ some '.') :
    anyDigits s = some (0, s) ∧ nineDigits s = some (0, s) := by
  rw [anyDigits, nineDigits, bind_of_eq (get_eq s), bind_of_eq (get_eq s)]
  split
  · simp at absent
  · exact ⟨rfl, rfl⟩

/-- After a fraction the nanosecond form either stands where the other form does, with the same
nanoseconds, or in front of a further digit. -/
theorem nineDigits_of_anyDigits {s rest rest' : List Char} {n n' : Nat}
    (reads : anyDigits s = some (n, rest)) (reads' : nineDigits s = some (n', rest')) :
    (n' = n ∧ rest' = rest) ∨ DigitFirst rest' := by
  by_cases point : s.head? = some '.'
  · obtain ⟨fraction, rfl⟩ := List.head?_eq_some_iff.1 point
    obtain ⟨nine, rfl, rfl⟩ := number_eq_some.1 (nineDigits_point fraction ▸ reads')
    have few := spanDigits_length_le 9 fraction
    have all : 9 - (spanDigits 9 fraction).1.length = 0 := by omega
    rw [anyDigits_point, all] at reads
    split at reads
    · cases reads
    · obtain ⟨rfl, rfl⟩ := Prod.mk.inj (Option.some.inj reads)
      cases left : (spanDigits 9 fraction).2 with
      | nil => exact .inl ⟨(Nat.mul_one _).symm, rfl⟩
      | cons c more =>
        cases digit : Decimal.isDigit c with
        | true => exact .inr ⟨c, more, rfl, digit⟩
        | false => exact .inl ⟨(Nat.mul_one _).symm, by simp [digit]⟩
  · obtain ⟨any, nine⟩ := fraction_absent point
    rw [any] at reads
    rw [nine] at reads'
    obtain ⟨rfl, rfl⟩ := Prod.mk.inj (Option.some.inj reads)
    obtain ⟨rfl, rfl⟩ := Prod.mk.inj (Option.some.inj reads')
    exact .inl ⟨rfl, rfl⟩

/-- Where the RFC 3339 form reads a text, the nanosecond form reads it alike or not at all. -/
theorem forms_agree : Agrees rfc3339Form nanoForm := by
  refine year_agrees.bind_cast fun y => ?_
  refine (Agrees.refl _).bind fun _ => ?_
  refine field_agrees.bind fun mo => ?_
  refine (Agrees.refl _).bind fun _ => ?_
  refine field_agrees.bind fun d => ?_
  refine dateEnd_agrees.bind fun _ => ?_
  refine field_agrees.bind fun h => ?_
  refine (Agrees.refl _).bind fun _ => ?_
  refine field_agrees.bind fun mi => ?_
  refine (Agrees.refl _).bind fun _ => ?_
  refine field_agrees.bind fun s => ?_
  intro s₀ c rest reads
  obtain ⟨n, s₁, fraction, reads⟩ := bind_eq_some reads
  obtain ⟨o, s₂, offset, given⟩ := bind_eq_some reads
  obtain ⟨trimmed, same⟩ := laxOffset_of_strictOffset offset
  cases nine : nineDigits s₀ with
  | none => exact .inl (bind_of_none nine)
  | some read =>
    rw [bind_of_eq nine]
    rcases nineDigits_of_anyDigits fraction nine with ⟨nanos, front⟩ | digits
    · rw [nanos, front, bind_of_eq (blanks_of_trimmed trimmed), bind_of_eq same]
      exact .inr given
    · rw [bind_of_eq (blanks_of_trimmed digits.trimStart)]
      exact .inl (bind_of_none digits.laxOffset)

/-! ## Trying one form after the other -/

theorem readNano?_of_readRfc3339? {s : List Char} {t : Instant} (reads : readRfc3339? s = some t) :
    readNano? s = none ∨ readNano? s = some t := by
  obtain ⟨⟨c, rest⟩, form, names⟩ := Option.bind_eq_some_iff.1 reads
  rcases forms_agree s c rest form with fails | alike
  · exact .inl (by simp [readNano?, instantIn?, fails])
  · exact .inr (by simpa [readNano?, instantIn?, alike] using names)

/-- The instants that the two forms read from a text are never different, so it does not matter which
form is tried first. -/
theorem either_form_first (s : List Char) :
    (∀ t t', readNano? s = some t → readRfc3339? s = some t' → t = t') ∧
      read? s = (readRfc3339? s).or (readNano? s) := by
  constructor
  · intro t t' lax strict
    rcases readNano?_of_readRfc3339? strict with fails | alike
    · rw [fails] at lax
      cases lax
    · exact Option.some.inj (lax.symm.trans alike)
  · cases strict : readRfc3339? s with
    | none => simp [read?, strict]
    | some t =>
      rcases readNano?_of_readRfc3339? strict with fails | alike
      · simp [read?, strict, fails]
      · simp [read?, alike]

/-- A leap second behind UTC, with the minus sign for a hyphen. -/
theorem minus_sign_is_read_alike :
    readNano? "2016-12-31T23:59:60.123456789−05:30".toList = some ⟨1483248599, 1123456789⟩ ∧
      readRfc3339? "2016-12-31T23:59:60.123456789−05:30".toList = some ⟨1483248599, 1123456789⟩ ∧
      readNano? "2016-12-31T23:59:60.123456789−05:30".toList =
        readRfc3339? "2016-12-31T23:59:60.123456789−05:30".toList := by
  have lax : readNano? "2016-12-31T23:59:60.123456789−05:30".toList =
      some ⟨1483248599, 1123456789⟩ := by decide
  have strict : readRfc3339? "2016-12-31T23:59:60.123456789−05:30".toList =
      some ⟨1483248599, 1123456789⟩ := by decide
  have same := (either_form_first _).1 _ _ lax strict
  exact ⟨lax, strict, lax.trans ((congrArg some same).trans strict.symm)⟩

end Stamp

end Chronicle
