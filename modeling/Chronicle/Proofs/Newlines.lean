import Chronicle.Proofs.Streams
import Chronicle.Text.Utf8
/-!
# Newlines

A newline is one byte, and decoding makes a newline of no other: `Unbroken` texts are those of bytes
without that byte, and the other way round. Whatever comes in from the body of a log stream, none of
the texts that are read of it has a newline (`LogStream.read_unbroken`). For the last piece that
hangs on its being asked for only when all lines have been given back.
-/

namespace Chronicle

/-- A text without a newline. -/
def Unbroken (text : String) : Prop := '\n' ∉ text.toList

instance (text : String) : Decidable (Unbroken text) := inferInstanceAs (Decidable (_ ∉ _))

theorem unbroken_append {a b : String} : Unbroken (a ++ b) ↔ Unbroken a ∧ Unbroken b := by
  simp [Unbroken]

theorem newline_notMem_digits (n : Nat) : '\n' ∉ Nat.toDigits 10 n := by
  intro mem
  exact absurd (Nat.isDigit_of_mem_toDigits (by decide) (by decide) mem) (by decide)

/-! ## Encoding -/

namespace Utf8

theorem mod_of_newline {n : Nat} (h : newline = UInt8.ofNat n) : n % 256 = 10 := by
  have same := congrArg UInt8.toNat h
  simpa [newline, eq_comm] using same

/-- The bytes of a longer sequence all have their highest bit set, so only one character has a
newline among its bytes. -/
theorem eq_newline_of_mem {c : Char} (h : newline ∈ String.utf8EncodeChar c) : c = '\n' := by
  unfold String.utf8EncodeChar at h
  simp only at h
  generalize code : c.val.toNat = n at h
  by_cases small : n ≤ 0x7f
  · rw [if_pos small, List.mem_singleton] at h
    have same := mod_of_newline h
    have ten : c.val.toNat = 10 := by omega
    exact Char.ext (UInt32.toNat_inj.1 ten)
  · rw [if_neg small] at h
    split at h
    · simp only [List.mem_cons, List.not_mem_nil, or_false] at h
      rcases h with h | h <;> have := mod_of_newline h <;> omega
    · split at h <;> simp only [List.mem_cons, List.not_mem_nil, or_false] at h
      · rcases h with h | h | h <;> have := mod_of_newline h <;> omega
      · rcases h with h | h | h | h <;> have := mod_of_newline h <;> omega

theorem newline_notMem_bytes {text : String} (unbroken : Unbroken text) :
    newline ∉ bytes text := by
  intro mem
  obtain ⟨c, listed, byte⟩ := List.mem_flatMap.1 mem
  exact unbroken (eq_newline_of_mem byte ▸ listed)

/-! ## Decoding -/

/-- Whatever bytes it goes on with, the sequence becomes no control character. -/
def Partial.Wide (p : Partial) : Prop := 16 ≤ p.code * 64 + (p.low - 0x80)

theorem Partial.Wide.extend {p : Partial} (wide : p.Wide) {b : UInt8}
    (accepts : p.accepts b = true) : 16 ≤ p.extend b := by
  simp only [Partial.accepts, Bool.and_eq_true, decide_eq_true_eq] at accepts
  unfold Wide at wide
  unfold Partial.extend
  omega

theorem eq_ten_of_newline {n : Nat} (h : '\n' = Char.ofNat n) : n = 10 := by
  have same : 10 = (Char.ofNat n).toNat := congrArg Char.toNat h
  by_cases valid : n.isValidChar
  · rw [Char.ofNat, dif_pos valid] at same
    exact same.symm
  · rw [Char.ofNat, dif_neg valid] at same
    cases same

theorem newline_ne_replacement : '\n' ≠ replacement := by decide

theorem eq_newline_of_lead {b : UInt8} (h : lead b = .char '\n') : b = newline := by
  unfold lead at h
  simp only at h
  split at h
  · exact UInt8.toNat_inj.1 (eq_ten_of_newline (Lead.char.inj h).symm)
  · repeat' split at h
    all_goals cases h

theorem wide_of_lead {b : UInt8} {p : Partial} (h : lead b = .start p) : p.Wide := by
  unfold lead at h
  generalize b.toNat = n at h
  simp only at h
  repeat' split at h
  all_goals simp only [Lead.start.injEq, reduceCtorEq] at h
  all_goals
    subst h
    simp only [Partial.Wide]
    omega

theorem newline_of_decodeFrom {p : Option Partial} {bs : List UInt8} (wide : ∀ q ∈ p, q.Wide)
    (h : '\n' ∈ decodeFrom p bs) : newline ∈ bs := by
  -- A replacement is no newline, and neither is what a sequence of several bytes becomes.
  fun_induction decodeFrom p bs with
  | case1 => cases h
  | case2 => exact absurd (List.mem_singleton.1 h) newline_ne_replacement
  | case3 b rest c isChar ih =>
    rcases List.mem_cons.1 h with rfl | later
    · simp [eq_newline_of_lead isChar]
    · exact List.mem_cons_of_mem _ (ih (by simp) later)
  | case4 b rest q starts ih =>
    exact List.mem_cons_of_mem _ (ih (by rintro _ ⟨⟩; exact wide_of_lead starts) h)
  | case5 b rest bad ih =>
    have later := (List.mem_cons.1 h).resolve_left newline_ne_replacement
    exact List.mem_cons_of_mem _ (ih (by simp) later)
  | case6 q b rest accepts last ih =>
    have big := (wide q rfl).extend accepts
    rcases List.mem_cons.1 h with now | later
    · have := eq_ten_of_newline now
      omega
    · exact List.mem_cons_of_mem _ (ih (by simp) later)
  | case7 q b rest accepts more ih =>
    have big := (wide q rfl).extend accepts
    refine List.mem_cons_of_mem _ (ih ?_ h)
    intro r mem
    obtain rfl := Option.some.inj mem
    simp only [Partial.Wide]
    omega
  | case8 q b rest refuses c isChar ih =>
    have later := (List.mem_cons.1 h).resolve_left newline_ne_replacement
    rcases List.mem_cons.1 later with rfl | later
    · simp [eq_newline_of_lead isChar]
    · exact List.mem_cons_of_mem _ (ih (by simp) later)
  | case9 q b rest refuses q' starts ih =>
    have later := (List.mem_cons.1 h).resolve_left newline_ne_replacement
    exact List.mem_cons_of_mem _ (ih (by rintro _ ⟨⟩; exact wide_of_lead starts) later)
  | case10 q b rest refuses bad ih =>
    have later := (List.mem_cons.1 h).resolve_left newline_ne_replacement
    have later := (List.mem_cons.1 later).resolve_left newline_ne_replacement
    exact List.mem_cons_of_mem _ (ih (by simp) later)

theorem unbroken_text {bs : List UInt8} (whole : newline ∉ bs) : Unbroken (text bs) := by
  intro mem
  rw [text, String.toList_ofList] at mem
  exact whole (newline_of_decodeFrom (by simp) mem)

end Utf8

/-! ## What is read -/

/-- The text of an outcome has no newline. -/
def Outcome.Unbroken : Outcome → Prop
  | .line text => Chronicle.Unbroken text
  | .ended trailing => ∀ text ∈ trailing, Chronicle.Unbroken text
  | .failed _ => True

namespace Splitter

variable {s t : Splitter} {text : String}

theorem unbroken_of_next (h : s.next? = some (text, t)) : Unbroken text := by
  rcases exists_line s.held with unended | ⟨line, rest, held, whole⟩
  · simp [next?, cutAtNewline_of_tail unended] at h
  · rw [next?, held, cutAtNewline_of_line whole] at h
    obtain ⟨rfl, -⟩ := Prod.mk.inj (Option.some.inj h)
    apply Utf8.unbroken_text
    unfold chomp
    split
    · exact fun mem => whole (List.dropLast_subset _ mem)
    · exact whole

/-- What is left has no newline if all complete lines have been taken. -/
theorem unbroken_of_takeRest (drained : s.next? = none) : ∀ text ∈ s.takeRest.1, Unbroken text := by
  intro text taken
  unfold takeRest at taken
  split at taken
  · cases taken
  · obtain rfl := Option.some.inj taken
    rcases exists_line s.held with unended | ⟨line, rest, held, whole⟩
    · exact Utf8.unbroken_text unended
    · simp [next?, held, cutAtNewline_of_line whole] at drained

end Splitter

namespace LogStream

variable {s t : LogStream} {o : Outcome} {pieces : List Piece}

theorem unbroken_of_ready (h : s.ready? = some (o, t)) : o.Unbroken := by
  unfold ready? at h
  split at h
  · next next =>
    obtain ⟨rfl, -⟩ := Prod.mk.inj (Option.some.inj h)
    exact Splitter.unbroken_of_next next
  · next drained =>
    split at h
    · obtain ⟨rfl, -⟩ := Prod.mk.inj (Option.some.inj h)
      exact Splitter.unbroken_of_takeRest drained
    · cases h

theorem drained_of_ready (h : s.ready? = none) : s.lines.next? = none := by
  unfold ready? at h
  split at h
  · cases h
  · assumption

theorem unbroken_of_atEnd (drained : s.lines.next? = none) (h : s.atEnd.1 = some o) :
    o.Unbroken := by
  unfold atEnd at h
  split at h
  · split at h
    · obtain rfl := Option.some.inj h
      exact Splitter.unbroken_of_takeRest drained
    · obtain rfl := Option.some.inj h
      trivial
  · obtain rfl := Option.some.inj h
    trivial
  · cases h

theorem readFrom_unbroken (h : (s.readFrom pieces).1 = some o) : o.Unbroken := by
  fun_induction readFrom s pieces with
  | case1 s outcome t ready | case3 s piece more outcome t ready =>
    obtain rfl := Option.some.inj h
    exact unbroken_of_ready ready
  | case2 s waits =>
    have drained : s.lines.next? = none := drained_of_ready waits
    exact unbroken_of_atEnd (s := s.withPieces []) drained h
  | case4 s more waits ih | case5 s more waits bs t accepts ih => exact ih h
  | case6 =>
    obtain rfl := Option.some.inj h
    trivial

/-- No text that is read has a newline, whatever the state of the stream and whatever its body. -/
theorem read_unbroken (h : s.read.1 = some o) : o.Unbroken := readFrom_unbroken h

theorem outcome?_unbroken {k : Nat} (h : s.outcome? k = some o) : o.Unbroken := by
  induction k generalizing s with
  | zero => exact read_unbroken h
  | succ k ih => exact ih h

theorem readMany_unbroken {most stops : Nat} (mem : o ∈ s.readMany most stops) : o.Unbroken := by
  fun_induction readMany most stops s with
  | case1 => cases mem
  | case2 => cases mem
  | case3 most stops s text t read ih =>
    rcases List.mem_cons.1 mem with rfl | later
    · exact read_unbroken (by rw [read])
    · exact ih later
  | case4 most s outcome t last read | case5 most s outcome t last read =>
    obtain rfl := List.mem_singleton.1 mem
    exact read_unbroken (by rw [read])
  | case6 most s outcome t last read stops more ih =>
    rcases List.mem_cons.1 mem with rfl | later
    · exact read_unbroken (by rw [read])
    · exact ih later

end LogStream

end Chronicle
