import Chronicle.Proofs.Streams
/-!
# Streams that break

The lines of the complete frames are read before the fault when the body is cut or its connection
breaks, since nothing more is taken in while a line is held. A bad header is different: the frames
that become complete with the very piece that completes the header are decoded with it, and their
lines come only after the fault. `tells_all_lines_iff` says when all lines come first.
-/

namespace Chronicle

variable {pieces before after more : List Piece} {bs left late rest tail chunk : List UInt8}
  {lines : List (List UInt8)} {stop : Stop} {decoder decoder' : Option FrameDecoder} {stream : UInt8}
  {frames : List Frame} {ending : Ending} {fault : Fault}

/-- Part of a frame: not yet a header, or not yet all of the payload. -/
def IsUnfinished (bs : List UInt8) : Prop :=
  bs.length < 8 ∨ ∃ f : Frame, f.Sound ∧ bs <+: f.encode ∧ bs ≠ f.encode

/-- What can follow the complete frames of a body and make it fail, how the body ends, and the fault
that tells of it. -/
inductive FrameDefect : List UInt8 → Ending → Fault → Prop where
  | unknown {stream : UInt8} {more : List UInt8} {ending : Ending} (unknown : 2 < stream)
      (header : 7 ≤ more.length) :
      FrameDefect (stream :: more) ending (.frame s!"unknown stream type {stream}")
  | cut {bs : List UInt8} (unfinished : IsUnfinished bs) (begun : bs ≠ []) :
      FrameDefect bs .complete (.frame "stream ended inside a frame")
  | broken {bs : List UInt8} (unfinished : IsUnfinished bs) : FrameDefect bs .broken .http

/-- A frame that holds a newline becomes complete only with the piece that also completes a bad
header behind the frames. -/
def Withheld (frames : List Frame) (rest : List UInt8) (pieces : List Piece) : Prop :=
  (∃ stream ∈ rest.head?, 2 < stream) ∧
    ∃ before chunk after, pieces = before ++ .data chunk :: after ∧
      (frames.flatMap Frame.encode).length + 8 ≤ (content before).length + chunk.length ∧
      ∃ first f last, frames = first ++ f :: last ∧ newline ∈ f.payload ∧
        (content before).length < ((first ++ [f]).flatMap Frame.encode).length

theorem IsUnfinished.peel (h : IsUnfinished bs) : peel bs = .short := by
  rcases h with short | ⟨f, sound, cut, proper⟩
  · exact peel_of_length_lt short
  · exact peel_of_cut sound cut proper

theorem content_append (pieces more : List Piece) :
    content (pieces ++ more) = content pieces ++ content more := List.flatMap_append

theorem Takes.append {coming coming' : List UInt8}
    (first : Takes decoder pieces coming (.dry decoder'))
    (second : Takes decoder' more coming' stop) :
    Takes decoder (pieces ++ more) (coming ++ coming') stop := by
  generalize dry : Stop.dry decoder' = stop' at first
  induction first with
  | dry =>
    obtain rfl := Stop.dry.inj dry
    exact second
  | trailer _ ih => exact .trailer (ih dry)
  | data decoded _ ih =>
    rw [List.append_assoc]
    exact .data decoded (ih dry)
  | bad => cases dry

/-! ## The piece that completes a header -/

theorem exists_piece {n : Nat} (inside : n < (content pieces).length) :
    ∃ before chunk after, pieces = before ++ .data chunk :: after ∧
      (content before).length ≤ n ∧ n < (content before).length + chunk.length := by
  induction pieces generalizing n with
  | nil => simp at inside
  | cons piece pieces ih =>
    cases piece with
    | trailer =>
      obtain ⟨before, chunk, after, rfl, start, stop⟩ := ih (by simpa using inside)
      exact ⟨.trailer :: before, chunk, after, rfl, start, stop⟩
    | data bs =>
      by_cases here : n < bs.length
      · exact ⟨[], bs, pieces, rfl, by simp, by simpa using here⟩
      · rw [content_data, List.length_append] at inside
        obtain ⟨before, chunk, after, rfl, start, stop⟩ := ih (n := n - bs.length) (by omega)
        refine ⟨.data bs :: before, chunk, after, rfl, ?_, ?_⟩ <;>
          rw [content_data, List.length_append] <;> omega

/-- From the front of a body that does not yet have a complete header behind its frames, the frames
that are complete come off. -/
theorem unframe_front (sound : ∀ f ∈ frames, f.Sound)
    (front : bs <+: frames.flatMap Frame.encode ++ rest)
    (early : bs.length < (frames.flatMap Frame.encode).length + 8) :
    ∃ first last left, frames = first ++ last ∧ bs = first.flatMap Frame.encode ++ left ∧
      unframe bs = (first.flatMap Frame.payload, left, none) ∧
      ∀ f ∈ last.head?, left.length < f.encode.length := by
  induction frames generalizing bs with
  | nil => exact ⟨[], [], bs, rfl, rfl, unframe_of_short (peel_of_length_lt (by simpa using early)),
      by simp⟩
  | cons f frames ih =>
    rw [List.flatMap_cons, List.append_assoc] at front
    have whole : f.encode <+: f.encode ++ (frames.flatMap Frame.encode ++ rest) :=
      List.prefix_append _ _
    by_cases complete : f.encode.length ≤ bs.length
    · obtain ⟨bs, rfl⟩ := List.prefix_of_prefix_length_le whole front complete
      obtain ⟨first, last, left, rfl, rfl, off, short⟩ := ih
        (fun g mem => sound g (by simp [mem])) ((List.prefix_append_right_inj _).1 front) (by
          simp only [List.flatMap_cons, List.length_append] at early ⊢
          omega)
      refine ⟨f :: first, last, left, rfl, by simp, ?_, short⟩
      rw [unframe_of_frame (peel_encode (sound f (by simp)) _), off, List.flatMap_cons]
    · have cut := List.prefix_of_prefix_length_le front whole (by omega)
      have proper : bs ≠ f.encode := by
        rintro rfl
        omega
      exact ⟨[], f :: frames, bs, rfl, rfl,
        unframe_of_short (peel_of_cut (sound f (by simp)) cut proper), by simpa using complete⟩

/-- With the piece that completes a bad header the frames are decoded that were not complete
before, and the header stops the output. -/
theorem takes_bad (sound : ∀ f ∈ frames, f.Sound) (unknown : 2 < stream)
    (sent : content (before ++ .data chunk :: after) = frames.flatMap Frame.encode ++ stream :: rest)
    (early : (content before).length < (frames.flatMap Frame.encode).length + 8)
    (header : (frames.flatMap Frame.encode).length + 8 ≤ (content before).length + chunk.length) :
    ∃ first last, frames = first ++ last ∧
      (first.flatMap Frame.encode).length ≤ (content before).length ∧
      (∀ f ∈ last.head?, (content before).length < ((first ++ [f]).flatMap Frame.encode).length) ∧
      Takes (some {}) (before ++ .data chunk :: after) (first.flatMap Frame.payload)
        (.bad (last.flatMap Frame.payload) (.frame s!"unknown stream type {stream}")) := by
  rw [content_append, content_data] at sent
  obtain ⟨first, last, left, rfl, split, off, short⟩ := unframe_front sound ⟨_, sent⟩ early
  -- The bytes so far are all the frames and the header.
  rw [← List.append_assoc] at sent
  obtain ⟨more, so_far⟩ : (first ++ last).flatMap Frame.encode <+: content before ++ chunk :=
    List.prefix_of_prefix_length_le ⟨_, sent.symm⟩ ⟨_, rfl⟩ (by rw [List.length_append]; omega)
  have size := congrArg List.length so_far
  rw [List.length_append, List.length_append] at size
  rw [← so_far, List.append_assoc, List.append_cancel_left_eq] at sent
  obtain ⟨more, rfl⟩ : ∃ rest, more = stream :: rest := by
    cases more with
    | nil =>
      rw [List.length_nil] at size
      omega
    | cons b more => exact ⟨more, by rw [(List.cons.inj sent).1]⟩
  rw [List.length_cons] at size
  have found : unframe (left ++ chunk) =
      (last.flatMap Frame.payload, stream :: more, some stream) := by
    have all := unframe_encode sound (stream :: more)
    rw [unframe_of_unknown (peel_unknown unknown (by omega)), so_far, unframe_append off chunk,
      List.flatMap_append, List.append_nil, Prod.mk.injEq, List.append_cancel_left_eq] at all
    exact Prod.ext all.1 all.2
  refine ⟨first, last, rfl, ?_, ?_, ?_⟩
  · rw [split, List.length_append]
    omega
  · intro f mem
    have := short f mem
    rw [split, List.flatMap_append, List.length_append, List.length_append]
    simpa using this
  · have begun : Takes (some {}) before (first.flatMap Frame.payload) (.dry (some ⟨left⟩)) :=
      takes_framed rfl off
    have bad : Takes (some ⟨left⟩) (.data chunk :: after) [] _ := .bad (decodeWith_framed found)
    have stopped := begun.append bad
    rwa [List.append_nil] at stopped

namespace LogStream

variable {s : LogStream}

/-! ## Lines before a fault -/

/-- The reads of a stream give these lines and then the fault. -/
def Fails (s : LogStream) (lines : List (List UInt8)) (fault : Fault) : Prop :=
  (∀ k line, lines[k]? = some line → s.outcome? k = some (.line (Utf8.text (chomp line)))) ∧
    s.outcome? lines.length = some (.failed fault)

theorem Holds.fails_of_bad (h : s.Holds bs (.bad late fault)) (division : Lines bs lines tail) :
    s.Fails lines fault := by
  obtain ⟨early, t, ⟨going, coming, takes, last⟩, -, after⟩ := h.outcomes division
  refine ⟨early, ?_⟩
  have stops := readFrom_tail takes going (last ▸ division.unended)
  rw [← Nat.add_zero lines.length, after]
  exact stops

/-- It gives all lines if none ends in the output that comes in with the header. -/
theorem Holds.fails_iff (h : s.Holds bs (.bad late fault))
    (division : Lines (bs ++ late) lines tail) : s.Fails lines fault ↔ newline ∉ late := by
  have before := lines_splitLines bs
  have told := h.fails_of_bad before
  constructor
  · -- There are more lines than come in before the header, so a read fails in place of one.
    intro fails inside
    have more : (splitLines bs).1.length < lines.length := by
      rw [← before.count, ← division.count, List.count_append]
      have := List.count_pos_iff.2 inside
      omega
    have line := fails.1 _ _ (List.getElem?_eq_getElem more)
    rw [told.2] at line
    cases line
  · intro none
    obtain ⟨same, -⟩ := division.unique (before.append none)
    rwa [same]

/-- A stream that fails at the end of its body has given all lines before. -/
theorem Holds.fails_at_end (h : s.Holds bs (.dry decoder)) (division : Lines bs lines tail)
    (ends : (s.body.ending = .broken ∧ fault = .http) ∨
      s.body.ending = .complete ∧ decoder.all (·.isEmpty) = false ∧
        fault = .frame "stream ended inside a frame") : s.Fails lines fault := by
  obtain ⟨early, t, ⟨going, coming, takes, last⟩, ending, after⟩ := h.outcomes division
  refine ⟨early, ?_⟩
  have read : t.read = _ := readFrom_tail takes going (last ▸ division.unended)
  rw [← Nat.add_zero lines.length, after, outcome?, read]
  rcases ends with ⟨broken, rfl⟩ | ⟨complete, held, rfl⟩
  · simp [atEnd, withPieces, ending, broken]
  · simp [atEnd, withPieces, ending, complete, held]

end LogStream

open LogStream

theorem not_withheld_of_unfinished (unfinished : IsUnfinished rest)
    (sent : content pieces = frames.flatMap Frame.encode ++ rest) : ¬ Withheld frames rest pieces := by
  rintro ⟨⟨stream, first, unknown⟩, before, chunk, after, rfl, header, -⟩
  have size := congrArg List.length sent
  rw [content_append, content_data] at size
  simp only [List.length_append] at size
  rcases unfinished with short | ⟨f, sound, ⟨missing, whole⟩, -⟩
  · omega
  · -- The stream of a frame that can be written exists.
    obtain ⟨more, rfl⟩ := List.head?_eq_some_iff.1 first
    have same : stream = f.stream := by
      simp only [Frame.encode, List.cons_append] at whole
      exact (List.cons.inj whole).1
    exact absurd (same ▸ unknown) (UInt8.not_lt.2 sound.stream)

/-- The frames that are complete only behind some bytes are those after the ones complete before. -/
theorem mem_late_iff {first late : List Frame} {n : Nat}
    (complete : (first.flatMap Frame.encode).length ≤ n)
    (short : ∀ f ∈ late.head?, n < ((first ++ [f]).flatMap Frame.encode).length) (f : Frame) :
    f ∈ late ↔ ∃ front rest, first ++ late = front ++ f :: rest ∧
      n < ((front ++ [f]).flatMap Frame.encode).length := by
  constructor
  · intro mem
    obtain ⟨between, rest, rfl⟩ := List.append_of_mem mem
    refine ⟨first ++ between, rest, by simp, ?_⟩
    cases between with
    | nil => simpa using short f rfl
    | cons g between =>
      have := short g rfl
      simp only [List.flatMap_append, List.flatMap_cons, List.length_append] at this ⊢
      omega
  · rintro ⟨front, rest, split, later⟩
    have split : first ++ late = (front ++ [f]) ++ rest := by rw [split, List.append_assoc]; rfl
    rcases List.append_eq_append_iff.1 split with ⟨between, same, rfl⟩ | ⟨between, rfl, -⟩
    · rcases List.eq_nil_or_concat between with rfl | ⟨between, last, rfl⟩
      · rw [same, List.append_nil] at later
        omega
      · rw [List.concat_eq_append, ← List.append_assoc] at same
        obtain rfl : f = last := by simpa using (List.append_inj' same rfl).2
        simp
    · rw [List.flatMap_append, List.length_append] at complete
      omega

/-- A bad header withholds no line exactly if no newline comes in with the piece that completes
it. -/
theorem fails_iff_at_piece (sound : ∀ f ∈ frames, f.Sound) (unknown : 2 < stream)
    (sent : content (before ++ .data chunk :: after) = frames.flatMap Frame.encode ++ stream :: rest)
    (division : Lines (frames.flatMap Frame.payload) lines tail)
    (early : (content before).length < (frames.flatMap Frame.encode).length + 8)
    (header : (frames.flatMap Frame.encode).length + 8 ≤ (content before).length + chunk.length) :
    (start ⟨before ++ .data chunk :: after, ending⟩ false).Fails lines
        (.frame s!"unknown stream type {stream}") ↔
      ¬ ∃ first f last, frames = first ++ f :: last ∧ newline ∈ f.payload ∧
        (content before).length < ((first ++ [f]).flatMap Frame.encode).length := by
  obtain ⟨first, late, rfl, complete, short, takes⟩ := takes_bad sound unknown sent early header
  have holds : (start ⟨before ++ .data chunk :: after, ending⟩ false).Holds _ _ :=
    ⟨rfl, _, takes, rfl⟩
  rw [holds.fails_iff (List.flatMap_append ▸ division), not_iff_not, List.mem_flatMap]
  constructor
  · rintro ⟨f, mem, inside⟩
    obtain ⟨front, rest, split, later⟩ := (mem_late_iff complete short f).1 mem
    exact ⟨front, f, rest, split, inside, later⟩
  · rintro ⟨front, f, rest, split, inside, later⟩
    exact ⟨f, (mem_late_iff complete short f).2 ⟨front, rest, split, later⟩, inside⟩

theorem fails_iff_of_unknown (sound : ∀ f ∈ frames, f.Sound) (unknown : 2 < stream)
    (header : 7 ≤ rest.length)
    (sent : content pieces = frames.flatMap Frame.encode ++ stream :: rest)
    (division : Lines (frames.flatMap Frame.payload) lines tail) :
    (start ⟨pieces, ending⟩ false).Fails lines (.frame s!"unknown stream type {stream}") ↔
      ¬ Withheld frames (stream :: rest) pieces := by
  constructor
  · rintro fails ⟨-, before, chunk, after, rfl, late, first, f, last, split, inside, later⟩
    have early : (content before).length < (frames.flatMap Frame.encode).length + 8 := by
      rw [split, ← List.singleton_append, ← List.append_assoc, List.flatMap_append,
        List.length_append]
      omega
    exact (fails_iff_at_piece sound unknown sent division early late).1 fails
      ⟨first, f, last, split, inside, later⟩
  · intro free
    have inside : (frames.flatMap Frame.encode).length + 7 < (content pieces).length := by
      rw [sent, List.length_append, List.length_cons]
      omega
    obtain ⟨before, chunk, after, rfl, early, late⟩ := exists_piece inside
    refine (fails_iff_at_piece sound unknown sent division (by omega) late).2 ?_
    rintro ⟨first, f, last, split, found⟩
    exact free ⟨⟨stream, rfl, unknown⟩, before, chunk, after, rfl, late, first, f, last, split, found⟩

/-- The reads of a body that breaks behind some frames give all lines of the frames, in order, and
then the fault, if and only if the body is not cut in such a way that a frame with a newline becomes
complete together with a bad header. -/
theorem tells_all_lines_iff (sound : ∀ f ∈ frames, f.Sound) (defect : FrameDefect rest ending fault)
    (sent : content pieces = frames.flatMap Frame.encode ++ rest)
    (division : Lines (frames.flatMap Frame.payload) lines tail) :
    (start ⟨pieces, ending⟩ false).Fails lines fault ↔ ¬ Withheld frames rest pieces := by
  have holds (unfinished : IsUnfinished rest) :
      (start ⟨pieces, ending⟩ false).Holds (frames.flatMap Frame.payload) (.dry (some ⟨rest⟩)) := by
    have whole := unframe_encode sound rest
    rw [unframe_of_short unfinished.peel, ← sent, List.append_nil] at whole
    exact ⟨rfl, _, takes_framed (d := {}) rfl whole, rfl⟩
  cases defect with
  | unknown unknown header => exact fails_iff_of_unknown sound unknown header sent division
  | cut unfinished begun =>
    refine iff_of_true ?_ (not_withheld_of_unfinished unfinished sent)
    refine (holds unfinished).fails_at_end division (.inr ⟨rfl, ?_, rfl⟩)
    simpa [FrameDecoder.isEmpty] using begun
  | broken unfinished =>
    refine iff_of_true ?_ (not_withheld_of_unfinished unfinished sent)
    exact (holds unfinished).fails_at_end division (.inl ⟨rfl, rfl⟩)

/-- A frame with a line. -/
def goodFrame : Frame := ⟨1, (0, 0, 0), [103, 111, 111, 100, 10]⟩

/-- A frame without one. -/
def openFrame : Frame := ⟨2, (0, 0, 0), [120]⟩

/-- A header whose stream is none. -/
def badHeader : List UInt8 := [7, 0, 0, 0, 0, 0, 0, 4]

theorem badHeader_defect : FrameDefect badHeader .complete (.frame "unknown stream type 7") :=
  FrameDefect.unknown (by decide : 2 < (7 : UInt8)) (by decide)

/-- The line is told if it is complete before the header, though a frame behind it is not. -/
theorem good_line_is_told :
    (start ⟨[.data (goodFrame.encode ++ [2, 0, 0]), .trailer,
        .data ([0, 0, 0, 0, 1, 120] ++ badHeader)], .complete⟩ false).Fails [[103, 111, 111, 100]]
      (.frame "unknown stream type 7") ∧
    Lines ([goodFrame, openFrame].flatMap Frame.payload) [[103, 111, 111, 100]] [120] := by
  have division : Lines ([goodFrame, openFrame].flatMap Frame.payload) [[103, 111, 111, 100]] [120] :=
    ⟨by decide, by decide, by decide⟩
  have sound : ∀ f ∈ [goodFrame, openFrame], f.Sound := by
    simp only [List.forall_mem_cons]
    exact ⟨⟨by decide, by decide⟩, ⟨by decide, by decide⟩, by simp⟩
  refine ⟨(tells_all_lines_iff sound badHeader_defect (by decide) division).2 ?_, division⟩
  rintro ⟨-, before, chunk, after, cut, header, first, f, last, split, inside, later⟩
  cases first with
  | nil =>
    obtain ⟨rfl, -⟩ : goodFrame = f ∧ [openFrame] = last := by simpa using split
    cases before with
    | nil =>
      obtain rfl := Piece.data.inj (List.cons.inj cut).1
      revert header
      decide
    | cons piece before =>
      obtain ⟨rfl, -⟩ := List.cons.inj cut
      rw [content_data, List.length_append] at later
      have : (goodFrame.encode ++ [2, 0, 0]).length = 16 := by decide
      have : (([] ++ [goodFrame]).flatMap Frame.encode).length = 13 := by decide
      omega
  | cons g first =>
    -- The other frame has no newline.
    have : f ∈ [openFrame] := by rw [(List.cons.inj split).2]; simp
    obtain rfl := List.mem_singleton.1 this
    revert inside
    decide

/-- A line that arrives in one piece with the bad header is told only after the fault. -/
theorem good_line_is_late :
    FrameDefect badHeader .complete (.frame "unknown stream type 7") ∧
    content [.data (goodFrame.encode ++ badHeader)] = [goodFrame].flatMap Frame.encode ++ badHeader ∧
    Lines ([goodFrame].flatMap Frame.payload) [[103, 111, 111, 100]] [] ∧
    ¬ (start ⟨[.data (goodFrame.encode ++ badHeader)], .complete⟩ false).Fails
      [[103, 111, 111, 100]] (.frame "unknown stream type 7") ∧
    (start ⟨[.data (goodFrame.encode ++ badHeader)], .complete⟩ false).outcome? 0 =
      some (.failed (.frame "unknown stream type 7")) ∧
    (start ⟨[.data (goodFrame.encode ++ badHeader)], .complete⟩ false).outcome? 1 =
      some (.line "good") := by
  have first : (start ⟨[.data (goodFrame.encode ++ badHeader)], .complete⟩ false).outcome? 0 =
      some (.failed (.frame "unknown stream type 7")) := by decide +kernel
  refine ⟨badHeader_defect, by decide, ⟨by decide, by decide, by decide⟩, ?_, first,
    by decide +kernel⟩
  rintro ⟨lines, -⟩
  have line := lines 0 _ rfl
  rw [first] at line
  cases line

end Chronicle
