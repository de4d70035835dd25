import Chronicle.Stream.Lines
import Mathlib.Data.List.Basic
/-!
# The lines of a whole input

`Lines` says what the lines of an input are and what follows the last of them, without a word on how
they are found. Every input has exactly one such division, which `splitLines` gives; a splitter cuts
the first line off.
-/

namespace Chronicle

/-- An input is these lines, each with a newline behind it, and this tail. -/
structure Lines (bs : List UInt8) (lines : List (List UInt8)) (tail : List UInt8) : Prop where
  joined : bs = lines.flatMap (· ++ [newline]) ++ tail
  unbroken : ∀ line ∈ lines, newline ∉ line
  unended : newline ∉ tail

variable {bs line rest tail : List UInt8} {lines : List (List UInt8)}

namespace Lines

theorem nil_iff : Lines bs [] tail ↔ bs = tail ∧ newline ∉ tail := by
  constructor
  · intro h
    exact ⟨by simpa using h.joined, h.unended⟩
  · rintro ⟨rfl, unended⟩
    exact ⟨by simp, by simp, unended⟩

theorem cons_iff : Lines bs (line :: lines) tail ↔
    ∃ rest, bs = line ++ newline :: rest ∧ newline ∉ line ∧ Lines rest lines tail := by
  constructor
  · intro h
    refine ⟨lines.flatMap (· ++ [newline]) ++ tail, ?_, h.unbroken line (by simp), rfl, ?_, h.unended⟩
    · simpa using h.joined
    · exact fun l mem => h.unbroken l (by simp [mem])
  · rintro ⟨rest, rfl, whole, h⟩
    refine ⟨by simp [h.joined], ?_, h.unended⟩
    intro l mem
    rcases List.mem_cons.1 mem with rfl | mem
    · exact whole
    · exact h.unbroken l mem

theorem append (h : Lines bs lines tail) (more : newline ∉ rest) :
    Lines (bs ++ rest) lines (tail ++ rest) where
  joined := by rw [h.joined, List.append_assoc]
  unbroken := h.unbroken
  unended := by simp [h.unended, more]

theorem count (h : Lines bs lines tail) : bs.count newline = lines.length := by
  have none : ∀ line ∈ lines, line.count newline = 0 := fun line mem =>
    List.count_eq_zero.2 (h.unbroken line mem)
  rw [h.joined, List.count_append, List.count_eq_zero.2 h.unended, Nat.add_zero]
  clear h
  induction lines with
  | nil => rfl
  | cons line lines ih =>
    rw [List.flatMap_cons, List.count_append, ih fun l mem => none l (by simp [mem]),
      List.count_append, none line (by simp), List.length_cons]
    simp [Nat.add_comm]

end Lines

theorem lines_splitLines (bs : List UInt8) : Lines bs (splitLines bs).1 (splitLines bs).2 := by
  induction bs with
  | nil => exact Lines.nil_iff.2 ⟨rfl, List.not_mem_nil⟩
  | cons b rest ih =>
    rw [splitLines]
    generalize splitLines rest = found at ih ⊢
    obtain ⟨lines, tail⟩ := found
    by_cases ends : b = newline
    · have first : Lines (b :: rest) ([] :: lines) tail :=
        Lines.cons_iff.2 ⟨rest, by rw [ends, List.nil_append], List.not_mem_nil, ih⟩
      simpa [ends] using first
    · cases lines with
      | nil =>
        obtain ⟨rfl, unended⟩ := Lines.nil_iff.1 ih
        have none : Lines (b :: rest) [] (b :: rest) :=
          Lines.nil_iff.2 ⟨rfl, by simp [unended, Ne.symm ends]⟩
        simpa [ends] using none
      | cons line more =>
        obtain ⟨after, rfl, whole, ih⟩ := Lines.cons_iff.1 ih
        have longer : Lines (b :: (line ++ newline :: after)) ((b :: line) :: more) tail :=
          Lines.cons_iff.2 ⟨after, rfl, by simp [whole, Ne.symm ends], ih⟩
        simpa [ends] using longer

/-! ## Cutting the first line off -/

theorem cutAtNewline_of_tail (unended : newline ∉ tail) : cutAtNewline tail = none := by
  induction tail with
  | nil => rfl
  | cons b rest ih =>
    obtain ⟨other, unended⟩ : newline ≠ b ∧ newline ∉ rest := by simpa using unended
    simp [cutAtNewline, Ne.symm other, ih unended]

theorem cutAtNewline_of_line (whole : newline ∉ line) (rest : List UInt8) :
    cutAtNewline (line ++ newline :: rest) = some (line, rest) := by
  induction line with
  | nil => simp [cutAtNewline]
  | cons b line ih =>
    obtain ⟨other, whole⟩ : newline ≠ b ∧ newline ∉ line := by simpa using whole
    simp [cutAtNewline, Ne.symm other, ih whole]

theorem first_line_unique {line' rest' : List UInt8} (whole : newline ∉ line)
    (whole' : newline ∉ line') (same : line ++ newline :: rest = line' ++ newline :: rest') :
    line = line' ∧ rest = rest' := by
  have cut := cutAtNewline_of_line whole rest
  rw [same, cutAtNewline_of_line whole'] at cut
  simpa [eq_comm] using cut

/-- Every input has only one division into lines and a tail. -/
theorem Lines.unique {lines' : List (List UInt8)} {tail' : List UInt8} (h : Lines bs lines tail)
    (h' : Lines bs lines' tail') : lines = lines' ∧ tail = tail' := by
  induction lines generalizing bs lines' with
  | nil =>
    obtain ⟨rfl, unended⟩ := Lines.nil_iff.1 h
    cases lines' with
    | nil => exact ⟨rfl, (Lines.nil_iff.1 h').1⟩
    | cons line' lines' =>
      obtain ⟨rest, rfl, -⟩ := Lines.cons_iff.1 h'
      simp at unended
  | cons line lines ih =>
    obtain ⟨rest, rfl, whole, h⟩ := Lines.cons_iff.1 h
    cases lines' with
    | nil =>
      obtain ⟨rfl, unended⟩ := Lines.nil_iff.1 h'
      simp at unended
    | cons line' lines' =>
      obtain ⟨rest', same, whole', h'⟩ := Lines.cons_iff.1 h'
      obtain ⟨rfl, rfl⟩ := first_line_unique whole whole' same
      obtain ⟨rfl, rfl⟩ := ih h h'
      exact ⟨rfl, rfl⟩

theorem exists_line (bs : List UInt8) :
    newline ∉ bs ∨ ∃ line rest, bs = line ++ newline :: rest ∧ newline ∉ line := by
  have h := lines_splitLines bs
  cases found : (splitLines bs).1 with
  | nil =>
    obtain ⟨same, unended⟩ := Lines.nil_iff.1 (found ▸ h)
    exact .inl (same ▸ unended)
  | cons line lines =>
    obtain ⟨rest, joined, whole, -⟩ := Lines.cons_iff.1 (found ▸ h)
    exact .inr ⟨line, rest, joined, whole⟩

end Chronicle
