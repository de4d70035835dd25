import Chronicle.Proofs.Encodings
import Chronicle.Proofs.Lines
import Chronicle.Proofs.Newlines
import Mathlib.Data.List.Induction
/-!
# Lines put together from chunks

A splitter is pushed chunks and asked for lines in any order. `Splitting.Kept` says where the bytes
are that it was pushed: in the lines that it has given back, and behind them in what it holds. So
the order and the chunks do not matter, only the bytes and the number of lines given back
(`Splitting.puts_lines_together`).
-/

namespace Chronicle

/-- What is done to a splitter while bytes arrive. -/
inductive Splitter.Use where
  | push (chunk : List UInt8)
  | next
deriving DecidableEq, Repr

/-- The text of a complete line. -/
def Splitter.lineText (line : List UInt8) : String := Utf8.text (chomp line)

/-- A splitter in use, and the lines that it has given back. -/
structure Splitting where
  splitter : Splitter := {}
  popped : List String := []

namespace Splitting

open Splitter (Use lineText)

/-- One use. -/
def use (s : Splitting) : Use → Splitting
  | .push chunk => { s with splitter := s.splitter.push chunk }
  | .next =>
    match s.splitter.next? with
    | some (text, splitter) => { splitter, popped := s.popped ++ [text] }
    | none => s

/-- A new splitter, used one time after the other. -/
def ofUses (uses : List Use) : Splitting := uses.foldl use {}

/-- All bytes that are pushed. -/
def pushed (uses : List Use) : List UInt8 :=
  uses.flatMap fun
    | .push chunk => chunk
    | .next => []

variable {uses : List Use} {bs tail : List UInt8} {lines : List (List UInt8)} {s : Splitting}

theorem ofUses_append (uses : List Use) (u : Use) :
    ofUses (uses ++ [u]) = (ofUses uses).use u := by
  simp [ofUses]

theorem pushed_push (uses : List Use) (chunk : List UInt8) :
    pushed (uses ++ [.push chunk]) = pushed uses ++ chunk := by
  simp [pushed]

theorem pushed_next (uses : List Use) : pushed (uses ++ [.next]) = pushed uses := by
  simp [pushed]

/-! ## Where the bytes are -/

/-- Of these bytes some lines have been given back, each as one text, and the rest is held. -/
def Kept (bs : List UInt8) (s : Splitting) : Prop :=
  ∃ given : List (List UInt8), (∀ line ∈ given, newline ∉ line) ∧
    s.popped = given.map lineText ∧
    bs = given.flatMap (· ++ [newline]) ++ s.splitter.held

/-- A splitter that is asked has no newline left, or it gives back what is in front of the first. -/
theorem use_next_cases (s : Splitting) :
    (newline ∉ s.splitter.held ∧ s.splitter.next? = none ∧ s.use .next = s) ∨
    ∃ line rest, newline ∉ line ∧ s.splitter.held = line ++ newline :: rest ∧
      s.splitter.next? = some (lineText line, ⟨rest⟩) ∧
      s.use .next = ⟨⟨rest⟩, s.popped ++ [lineText line]⟩ := by
  rcases exists_line s.splitter.held with unended | ⟨line, rest, held, whole⟩
  · have none : s.splitter.next? = none := by
      rw [Splitter.next?, cutAtNewline_of_tail unended, Option.map_none]
    exact .inl ⟨unended, none, by rw [use, none]⟩
  · have first : s.splitter.next? = some (lineText line, ⟨rest⟩) := by
      rw [Splitter.next?, held, cutAtNewline_of_line whole]
      rfl
    exact .inr ⟨line, rest, whole, held, first, by rw [use, first]⟩

theorem Kept.push (h : Kept bs s) (chunk : List UInt8) :
    Kept (bs ++ chunk) (s.use (.push chunk)) := by
  obtain ⟨given, whole, popped, joined⟩ := h
  refine ⟨given, whole, popped, ?_⟩
  rw [joined, List.append_assoc]
  rfl

theorem Kept.next (h : Kept bs s) : Kept bs (s.use .next) := by
  obtain ⟨given, unbroken, popped, joined⟩ := h
  rcases s.use_next_cases with ⟨-, -, same⟩ | ⟨line, rest, whole, held, -, moved⟩
  · rw [same]
    exact ⟨given, unbroken, popped, joined⟩
  · -- The line goes from what is held to what has been given back.
    rw [moved]
    refine ⟨given ++ [line], ?_, ?_, ?_⟩
    · intro l mem
      rcases List.mem_append.1 mem with before | last
      · exact unbroken l before
      · rw [List.mem_singleton.1 last]
        exact whole
    · rw [popped, List.map_append]
      rfl
    · rw [joined, held]
      simp

theorem kept_ofUses (uses : List Use) : Kept (pushed uses) (ofUses uses) := by
  induction uses using List.reverseRecOn with
  | nil => exact ⟨[], by simp, rfl, rfl⟩
  | append_singleton uses u ih =>
    rw [ofUses_append]
    cases u with
    | push chunk =>
      rw [pushed_push]
      exact ih.push chunk
    | next =>
      rw [pushed_next]
      exact ih.next

/-! ## Lines that are still to come -/

/-- What has been given back are the first lines of all bytes, and the others are in what is
held. -/
theorem Kept.split (h : Kept bs s) (division : Lines bs lines tail) :
    ∃ given more, lines = given ++ more ∧ s.popped = given.map lineText ∧
      bs = given.flatMap (· ++ [newline]) ++ s.splitter.held ∧
      Lines s.splitter.held more tail := by
  obtain ⟨given, unbroken, popped, joined⟩ := h
  have rest := lines_splitLines s.splitter.held
  have all : Lines bs (given ++ (splitLines s.splitter.held).1) (splitLines s.splitter.held).2 := by
    refine ⟨?_, ?_, rest.unended⟩
    · rw [List.flatMap_append, List.append_assoc, ← rest.joined]
      exact joined
    · intro line mem
      rcases List.mem_append.1 mem with before | after
      · exact unbroken line before
      · exact rest.unbroken line after
  obtain ⟨rfl, rfl⟩ := division.unique all
  exact ⟨given, _, rfl, popped, joined, rest⟩

theorem Kept.popped_eq_take (h : Kept bs s) (division : Lines bs lines tail) :
    s.popped = (lines.map lineText).take s.popped.length := by
  obtain ⟨given, more, rfl, popped, -, -⟩ := h.split division
  rw [popped, List.map_append, List.take_left]

theorem Kept.popped_prefix (h : Kept bs s) (division : Lines bs lines tail) :
    s.popped <+: lines.map lineText := by
  rw [h.popped_eq_take division]
  exact List.take_prefix _ _

/-- All lines have been given back and the tail is held, or asking gives back the next of them. -/
theorem Kept.next_cases (h : Kept bs s) (division : Lines bs lines tail) :
    (s.popped = lines.map lineText ∧ s.splitter.held = tail ∧ s.splitter.next? = none ∧
      s.use .next = s) ∨
    ∃ given line more rest, lines = given ++ line :: more ∧ s.popped = given.map lineText ∧
      s.splitter.next? = some (lineText line, rest) ∧
      s.use .next = ⟨rest, s.popped ++ [lineText line]⟩ := by
  obtain ⟨given, more, rfl, popped, -, held⟩ := h.split division
  rcases s.use_next_cases with ⟨unended, none, same⟩ |
    ⟨line, rest, whole, first, some, moved⟩
  · obtain ⟨rfl, rfl⟩ := (Lines.nil_iff.2 ⟨rfl, unended⟩).unique held
    exact .inl ⟨by rw [popped, List.append_nil], rfl, none, same⟩
  · obtain ⟨rfl, -⟩ := held.unique
      (Lines.cons_iff.2 ⟨rest, first, whole, lines_splitLines rest⟩)
    exact .inr ⟨given, line, _, ⟨rest⟩, rfl, popped, some, moved⟩

/-- A splitter that is asked gives back the next line, if there is one. -/
theorem Kept.popped_next (h : Kept bs s) (division : Lines bs lines tail) :
    (s.use .next).popped = (lines.map lineText).take (s.popped.length + 1) := by
  rcases h.next_cases division with ⟨all, -, -, same⟩ |
    ⟨given, line, more, rest, rfl, popped, -, moved⟩
  · rw [same, all]
    exact (List.take_of_length_le (Nat.le_succ _)).symm
  · rw [moved, popped, List.map_append, List.take_append, List.take_of_length_le (Nat.le_succ _),
      List.map_cons]
    simp

/-- There is no answer exactly when all complete lines have been given back. -/
theorem Kept.next?_eq_none_iff (h : Kept bs s) (division : Lines bs lines tail) :
    s.splitter.next? = none ↔ s.popped = lines.map lineText := by
  rcases h.next_cases division with ⟨all, -, none, -⟩ |
    ⟨given, line, more, rest, rfl, popped, some, -⟩
  · simp [all, none]
  · simp [popped, some]

/-- Once there is no answer, the rest is what follows the last newline, and nothing is left. -/
theorem Kept.takeRest_eq (h : Kept bs s) (division : Lines bs lines tail)
    (waits : s.splitter.next? = none) :
    s.splitter.takeRest = (if tail = [] then none else some (Utf8.text tail), {}) := by
  rcases h.next_cases division with ⟨-, held, -, -⟩ | ⟨_, _, _, _, -, -, some, -⟩
  · obtain ⟨⟨bytes⟩, _⟩ := s
    obtain rfl : bytes = tail := held
    by_cases empty : bytes = []
    · subst empty
      rfl
    · simp [Splitter.takeRest, empty]
  · rw [waits] at some
    cases some

/-- The bytes and the number of lines given back determine the lines and what is held. -/
theorem Kept.unique {t : Splitting} (h : Kept bs s) (h' : Kept bs t)
    (same : s.popped.length = t.popped.length) :
    s.popped = t.popped ∧ s.splitter = t.splitter := by
  have division := lines_splitLines bs
  have popped : s.popped = t.popped := by
    rw [h.popped_eq_take division, same, ← h'.popped_eq_take division]
  refine ⟨popped, ?_⟩
  obtain ⟨given, more, lines, own, joined, -⟩ := h.split division
  obtain ⟨given', more', lines', own', joined', -⟩ := h'.split division
  have length : given.length = given'.length := by
    rw [own, own', List.length_map, List.length_map] at same
    exact same
  obtain ⟨rfl, -⟩ := List.append_inj (lines.symm.trans lines') length
  have held : s.splitter.held = t.splitter.held :=
    List.append_cancel_left (joined.symm.trans joined')
  obtain ⟨⟨_⟩, _⟩ := s
  obtain ⟨⟨_⟩, _⟩ := t
  exact congrArg Splitter.mk held

/-- Once there is no answer, the bytes alone do. -/
theorem Kept.unique_of_waits {t : Splitting} (h : Kept bs s) (h' : Kept bs t)
    (waits : s.splitter.next? = none) (waits' : t.splitter.next? = none) :
    s.popped = t.popped ∧ s.splitter = t.splitter := by
  have division := lines_splitLines bs
  have all := (h.next?_eq_none_iff division).1 waits
  have all' := (h'.next?_eq_none_iff division).1 waits'
  exact h.unique h' (by rw [all, all'])

end Splitting

/-! ## Line endings -/

/-- The two ways to end a line. -/
inductive LineEnding where
  | lf
  | crlf
deriving DecidableEq, Repr

/-- The bytes of a line ending. -/
def LineEnding.bytes : LineEnding → List UInt8
  | .lf => [newline]
  | .crlf => [carriageReturn, newline]

/-- What stands before the newline. -/
def LineEnding.beforeNewline : LineEnding → List UInt8
  | .lf => []
  | .crlf => [carriageReturn]

/-- A text that can be a line: it has no newline and no carriage return at its end. -/
structure IsLineText (text : String) : Prop where
  unbroken : Unbroken text
  plainEnd : text.toList.getLast? ≠ some '\r'

/-- Texts with their line endings, and a last one that has none. -/
def joinLines (texts : List (String × LineEnding)) (last : String) : List UInt8 :=
  (texts.flatMap fun t => Utf8.bytes t.1 ++ t.2.bytes) ++ Utf8.bytes last

namespace Utf8

theorem eq_carriageReturn_of_mem {c : Char} (mem : carriageReturn ∈ String.utf8EncodeChar c) :
    c = '\r' := by
  by_cases ascii : c.toNat < 128
  · have one : encode [c] = [UInt8.ofNat c.toNat] := encode_ascii ascii []
    rw [encode_cons, encode_nil, List.append_nil] at one
    rw [one, List.mem_singleton] at mem
    have code : 13 = c.toNat % 256 := by simpa [carriageReturn] using congrArg UInt8.toNat mem
    have thirteen : c.toNat = 13 := by omega
    rw [← Char.ofNat_toNat c, thirteen]
  · have high := high_of_mem_encode (c := c) (b := carriageReturn) (Nat.le_of_not_lt ascii)
      (by simpa using mem)
    exact absurd high (by decide)

/-- Only a carriage return ends in the byte of one. -/
theorem getLast?_bytes {text : String} (plain : text.toList.getLast? ≠ some '\r') :
    (bytes text).getLast? ≠ some carriageReturn := by
  rw [bytes]
  rcases List.eq_nil_or_concat text.toList with empty | ⟨before, c, split⟩
  · rw [empty]
    simp
  · rw [split, List.concat_eq_append] at plain ⊢
    rw [encode_append, encode_cons, encode_nil, List.append_nil]
    intro last
    have other : c ≠ '\r' := by simpa using plain
    have nonempty : String.utf8EncodeChar c ≠ [] := String.utf8EncodeChar_ne_nil
    rw [List.getLast?_append_of_ne_nil _ nonempty] at last
    exact other (eq_carriageReturn_of_mem (List.mem_of_getLast? last))

end Utf8

/-- A line comes back as the text that it was made of, whatever its ending. -/
theorem IsLineText.lineText {text : String} (h : IsLineText text) (ending : LineEnding) :
    Splitter.lineText (Utf8.bytes text ++ ending.beforeNewline) = text := by
  have chomped : chomp (Utf8.bytes text ++ ending.beforeNewline) = Utf8.bytes text := by
    cases ending with
    | lf =>
      rw [LineEnding.beforeNewline, List.append_nil, chomp,
        if_neg (Utf8.getLast?_bytes h.plainEnd)]
    | crlf => simp [LineEnding.beforeNewline, chomp]
  rw [Splitter.lineText, chomped, Utf8.text_bytes]

theorem lines_joinLines {texts : List (String × LineEnding)} {last : String}
    (each : ∀ t ∈ texts, IsLineText t.1) (unbroken : Unbroken last) :
    Lines (joinLines texts last) (texts.map fun t => Utf8.bytes t.1 ++ t.2.beforeNewline)
      (Utf8.bytes last) where
  joined := by
    rw [joinLines, List.flatMap_map]
    congr 2
    funext ⟨text, ending⟩
    cases ending <;> simp [LineEnding.bytes, LineEnding.beforeNewline]
  unbroken := by
    intro line mem
    obtain ⟨⟨text, ending⟩, listed, rfl⟩ := List.mem_map.1 mem
    have whole := Utf8.newline_notMem_bytes (each _ listed).unbroken
    cases ending with
    | lf => simpa [LineEnding.beforeNewline] using whole
    | crlf => simpa [LineEnding.beforeNewline, whole] using (by decide : newline ≠ carriageReturn)
  unended := Utf8.newline_notMem_bytes unbroken

/-! ## The main result -/

namespace Splitting

open Splitter (Use lineText)

/-- Asking again and again gives back one line after the other. -/
theorem popped_replicate {uses : List Use} {lines : List (List UInt8)} {tail : List UInt8}
    (division : Lines (pushed uses) lines tail) (n : Nat) :
    pushed (uses ++ List.replicate n .next) = pushed uses ∧
    (ofUses (uses ++ List.replicate n .next)).popped =
      (lines.map lineText).take ((ofUses uses).popped.length + n) := by
  induction n with
  | zero =>
    rw [List.replicate_zero, List.append_nil]
    exact ⟨rfl, (kept_ofUses uses).popped_eq_take division⟩
  | succ n ih =>
    obtain ⟨same, popped⟩ := ih
    have kept := kept_ofUses (uses ++ List.replicate n .next)
    rw [same] at kept
    rw [List.replicate_succ', ← List.append_assoc, pushed_next, ofUses_append,
      kept.popped_next division, popped, List.length_take]
    refine ⟨same, ?_⟩
    rcases Nat.le_total ((ofUses uses).popped.length + n) (lines.map lineText).length with le | le
    · rw [Nat.min_eq_left le]
      rfl
    · rw [Nat.min_eq_right le, List.take_of_length_le (Nat.le_succ _)]
      exact (List.take_of_length_le (Nat.le_succ_of_le le)).symm

/-- Lines that were joined come back as they were, and behind them the last one, which has no line
ending. -/
theorem Kept.gives_back {s : Splitting} {texts : List (String × LineEnding)} {last : String}
    (h : Kept (joinLines texts last) s) (each : ∀ t ∈ texts, IsLineText t.1)
    (unbroken : Unbroken last) :
    s.popped <+: texts.map Prod.fst ∧
      (s.splitter.next? = none → s.popped = texts.map Prod.fst ∧
        s.splitter.takeRest = (if last = "" then none else some last, {})) := by
  have division := lines_joinLines each unbroken
  have back : (texts.map fun t => Utf8.bytes t.1 ++ t.2.beforeNewline).map lineText =
      texts.map Prod.fst := by
    rw [List.map_map]
    apply List.map_congr_left
    intro t mem
    exact (each t mem).lineText t.2
  rw [← back]
  refine ⟨h.popped_prefix division, ?_⟩
  intro waits
  refine ⟨(h.next?_eq_none_iff division).1 waits, ?_⟩
  rw [h.takeRest_eq division waits, Utf8.text_bytes]
  by_cases empty : last = ""
  · subst empty
    rfl
  · have filled : Utf8.bytes last ≠ [] := by
      intro none
      exact empty (Utf8.bytes_injective (none.trans Utf8.encode_nil.symm))
    rw [if_neg filled, if_neg empty]

/-- Whatever is pushed and however often it is asked in between, a splitter has given back the first
of the lines of all bytes pushed so far, each read as a whole. It gives no answer exactly when it
has given back all complete ones; then what it has left is what follows the last newline. Where the
chunks end does not matter: the same bytes give the same lines and leave the same. And lines that
were joined come back as they were, whichever way each was ended. -/
theorem puts_lines_together (uses : List Use) :
    (∃ lines tail, Lines (pushed uses) lines tail ∧
      (ofUses uses).popped <+: lines.map lineText ∧
      (∀ n, (ofUses (uses ++ List.replicate n .next)).popped =
        (lines.map lineText).take ((ofUses uses).popped.length + n)) ∧
      ((ofUses uses).splitter.next? = none ↔ (ofUses uses).popped = lines.map lineText) ∧
      ((ofUses uses).splitter.next? = none →
        (ofUses uses).splitter.takeRest =
          (if tail = [] then none else some (Utf8.text tail), {}))) ∧
    (∀ other, pushed other = pushed uses →
      (ofUses other).popped.length = (ofUses uses).popped.length ∨
        ((ofUses other).splitter.next? = none ∧ (ofUses uses).splitter.next? = none) →
      (ofUses other).popped = (ofUses uses).popped ∧
        (ofUses other).splitter = (ofUses uses).splitter) ∧
    ∀ texts last, (∀ t ∈ texts, IsLineText t.1) → Unbroken last →
      pushed uses = joinLines texts last →
      (ofUses uses).popped <+: texts.map Prod.fst ∧
      ((ofUses uses).splitter.next? = none →
        (ofUses uses).popped = texts.map Prod.fst ∧
        (ofUses uses).splitter.takeRest = (if last = "" then none else some last, {})) := by
  have kept := kept_ofUses uses
  refine ⟨?_, ?_, ?_⟩
  · have division := lines_splitLines (pushed uses)
    exact ⟨_, _, division, kept.popped_prefix division, fun n => (popped_replicate division n).2,
      kept.next?_eq_none_iff division, kept.takeRest_eq division⟩
  · intro other same alike
    have kept' := kept_ofUses other
    rw [same] at kept'
    rcases alike with length | ⟨waits', waits⟩
    · exact kept'.unique kept length
    · exact kept'.unique_of_waits kept waits' waits
  · intro texts last each unbroken joined
    rw [joined] at kept
    exact kept.gives_back each unbroken

/-- Chunks that cut through a character and between carriage return and newline, with a question
after each of them. -/
def torn : List Use :=
  [.push [195], .next, .push [169, 13], .next, .push [10, 120], .next, .next]

/-- The same bytes at once. -/
def untorn : List Use := [.push [195, 169, 13, 10, 120], .next]

theorem torn_lines_are_put_together :
    (ofUses torn).splitter.next? = none ∧ (ofUses torn).popped = ["é"] ∧
      (ofUses torn).splitter.takeRest = (some "x", {}) ∧
      (ofUses torn).splitter = (ofUses untorn).splitter := by
  have waits : (ofUses torn).splitter.next? = none := by decide +kernel
  have waits' : (ofUses untorn).splitter.next? = none := by decide +kernel
  have bytes : pushed untorn = pushed torn := by decide
  have joined : pushed torn = joinLines [("é", .crlf)] "x" := by decide +kernel
  have line : ∀ t ∈ [("é", LineEnding.crlf)], IsLineText t.1 := by
    simp only [List.forall_mem_singleton]
    exact ⟨by decide, by decide⟩
  obtain ⟨-, unmoved, back⟩ := puts_lines_together torn
  obtain ⟨-, given⟩ := back _ _ line (by decide) joined
  obtain ⟨lines, rest⟩ := given waits
  exact ⟨waits, lines, rest, (unmoved untorn bytes (.inr ⟨waits', waits⟩)).2.symm⟩

end Splitting

end Chronicle
