import Chronicle.Proofs.Frames
import Chronicle.Proofs.Lines
import Chronicle.Stream.LogStream
/-!
# What is read from a stream

A read takes in pieces of the body until there is a line, so how the body is cut into pieces decides
when output comes in and nothing else. `Takes` says what output comes in from a row of pieces and
what stops it, `LogStream.Holds` what a stream has still to give, and `Holds.outcomes` that its
reads give the lines of that one after the other. For a complete body of frames that is all of its
payload, just as if the payload had been sent as it is: `framed_reads_as_raw`.
-/

namespace Chronicle

/-- The bytes of a row of pieces. -/
def content (pieces : List Piece) : List UInt8 :=
  pieces.flatMap fun
    | .data bs => bs
    | .trailer => []

/-- The output in some bytes, decoded if there is a decoder. -/
def decodeWith : Option FrameDecoder → List UInt8 → List UInt8 × Option FrameDecoder × Option Fault
  | none, bs => (bs, none, none)
  | some d, bs => ((d.decode bs).1, some (d.decode bs).2.1, (d.decode bs).2.2)

/-- What stops the output that comes in. -/
inductive Stop where
  /-- There are no more pieces. -/
  | dry (decoder : Option FrameDecoder)
  /-- A piece with a bad header, and this output in front of it. -/
  | bad (late : List UInt8) (fault : Fault)

/-- The output that comes in from a row of pieces, and what stops it. -/
inductive Takes : Option FrameDecoder → List Piece → List UInt8 → Stop → Prop where
  | dry {decoder : Option FrameDecoder} : Takes decoder [] [] (.dry decoder)
  | trailer {decoder : Option FrameDecoder} {pieces : List Piece} {coming : List UInt8}
      {stop : Stop} (more : Takes decoder pieces coming stop) :
      Takes decoder (.trailer :: pieces) coming stop
  | data {decoder decoder' : Option FrameDecoder} {bs output coming : List UInt8}
      {pieces : List Piece} {stop : Stop} (decoded : decodeWith decoder bs = (output, decoder', none))
      (more : Takes decoder' pieces coming stop) :
      Takes decoder (.data bs :: pieces) (output ++ coming) stop
  | bad {decoder decoder' : Option FrameDecoder} {bs late : List UInt8} {pieces : List Piece}
      {fault : Fault} (decoded : decodeWith decoder bs = (late, decoder', some fault)) :
      Takes decoder (.data bs :: pieces) [] (.bad late fault)

variable {pieces : List Piece} {bs line rest tail coming output left : List UInt8}
  {lines : List (List UInt8)} {stop : Stop} {d : FrameDecoder} {decoder : Option FrameDecoder}

@[simp]
theorem content_nil : content [] = [] := rfl

@[simp]
theorem content_data (bs : List UInt8) (pieces : List Piece) :
    content (.data bs :: pieces) = bs ++ content pieces := rfl

@[simp]
theorem content_trailer (pieces : List Piece) : content (.trailer :: pieces) = content pieces := rfl

/-! ## What comes in -/

theorem takes_raw (pieces : List Piece) : Takes none pieces (content pieces) (.dry none) := by
  induction pieces with
  | nil => exact .dry
  | cons piece pieces ih =>
    cases piece with
    | data bs => exact .data rfl ih
    | trailer => exact .trailer ih

theorem decodeWith_framed {stream : Option UInt8}
    (h : unframe (d.held ++ bs) = (output, left, stream)) :
    decodeWith (some d) bs =
      (output, some ⟨left⟩, stream.map fun s => .frame s!"unknown stream type {s}") := by
  simp [decodeWith, FrameDecoder.decode, h]

/-- All that the frames of a body hold comes in, however the body is cut. -/
theorem takes_framed (held : peel d.held = .short)
    (whole : unframe (d.held ++ content pieces) = (output, left, none)) :
    Takes (some d) pieces output (.dry (some ⟨left⟩)) := by
  induction pieces generalizing d output with
  | nil =>
    rw [content_nil, List.append_nil, unframe_of_short held] at whole
    obtain ⟨rfl, rfl⟩ : [] = output ∧ d.held = left := by simpa using whole
    exact .dry
  | cons piece pieces ih =>
    cases piece with
    | trailer => exact .trailer (ih held whole)
    | data bs =>
      rw [content_data, ← List.append_assoc] at whole
      cases first : unframe (d.held ++ bs) with
      | mk payload decoded =>
        obtain ⟨kept, _ | stream⟩ := decoded
        · rw [unframe_append first, Prod.mk.injEq] at whole
          obtain ⟨rfl, same⟩ := whole
          exact .data (decodeWith_framed first)
            (ih (d := ⟨kept⟩) (peel_left first) (Prod.ext rfl same))
        · -- A bad header would be found in the whole body too.
          rw [unframe_append_unknown first] at whole
          simp at whole

namespace LogStream

variable {s t : LogStream} {outcome : Outcome}

/-! ## One read -/

/-- What is still to come of a stream that goes on is this output, and then the stop. -/
def Holds (s : LogStream) (output : List UInt8) (stop : Stop) : Prop :=
  s.ended = false ∧
    ∃ coming, Takes s.decoder s.body.pieces coming stop ∧ s.lines.held ++ coming = output

theorem ready?_eq_none (going : s.ended = false) (quiet : newline ∉ s.lines.held) :
    s.ready? = none := by
  simp [ready?, Splitter.next?, cutAtNewline_of_tail quiet, going]

theorem ready?_line (whole : newline ∉ line) (first : s.lines.held = line ++ newline :: rest) :
    s.ready? = some (.line (Utf8.text (chomp line)), { s with lines := ⟨rest⟩ }) := by
  simp [ready?, Splitter.next?, first, cutAtNewline_of_line whole]

theorem readFrom_of_ready (ready : s.ready? = some (outcome, t)) (pieces : List Piece) :
    s.readFrom pieces = (some outcome, t.withPieces pieces) := by
  cases pieces <;> simp [readFrom, ready]

theorem readFrom_trailer (waits : s.ready? = none) :
    s.readFrom (.trailer :: pieces) = s.readFrom pieces := by
  simp [readFrom, waits]

theorem accept_eq {fault : Option Fault} {decoder' : Option FrameDecoder}
    (decoded : decodeWith s.decoder bs = (output, decoder', fault)) :
    s.accept bs = ({ s with decoder := decoder', lines := s.lines.push output }, fault) := by
  cases uses : s.decoder with
  | none =>
    obtain ⟨rfl, rfl, rfl⟩ : bs = output ∧ none = decoder' ∧ none = fault := by
      simpa [uses, decodeWith] using decoded
    simp [accept, uses]
  | some d =>
    obtain ⟨rfl, rfl, rfl⟩ : _ = output ∧ _ = decoder' ∧ _ = fault := by
      simpa [uses, decodeWith] using decoded
    simp [accept, uses]

theorem readFrom_data {decoder' : Option FrameDecoder} (waits : s.ready? = none)
    (decoded : decodeWith s.decoder bs = (output, decoder', none)) :
    s.readFrom (.data bs :: pieces) =
      ({ s with decoder := decoder', lines := s.lines.push output } : LogStream).readFrom pieces := by
  simp [readFrom, waits, accept_eq decoded]

theorem readFrom_held (takes : Takes s.decoder pieces coming stop) (going : s.ended = false)
    (whole : newline ∉ line) (first : s.lines.held ++ coming = line ++ newline :: rest)
    (ready : newline ∈ s.lines.held) :
    ∃ t, s.readFrom pieces = (some (.line (Utf8.text (chomp line))), t) ∧ t.Holds rest stop ∧
      t.body.ending = s.body.ending := by
  obtain ⟨line', kept, held, whole'⟩ := (exists_line s.lines.held).resolve_left (not_not_intro ready)
  have same : line ++ newline :: rest = line' ++ newline :: (kept ++ coming) := by
    rw [← first, held, List.append_assoc, List.cons_append]
  obtain ⟨rfl, rfl⟩ := first_line_unique whole whole' same
  exact ⟨_, readFrom_of_ready (ready?_line whole held) pieces, ⟨going, coming, takes, rfl⟩, rfl⟩

/-- The first line of what is to come is read first, whatever pieces it comes in. -/
theorem readFrom_line (takes : Takes s.decoder pieces coming stop) (going : s.ended = false)
    (whole : newline ∉ line) (first : s.lines.held ++ coming = line ++ newline :: rest) :
    ∃ t, s.readFrom pieces = (some (.line (Utf8.text (chomp line))), t) ∧ t.Holds rest stop ∧
      t.body.ending = s.body.ending := by
  -- Induction on what comes in. A stream that holds a line takes nothing in.
  by_cases ready : newline ∈ s.lines.held
  · exact readFrom_held takes going whole first ready
  have waits := ready?_eq_none going ready
  generalize uses : s.decoder = decoder at takes
  induction takes generalizing s with
  | dry | bad =>
    rw [List.append_nil] at first
    simp [first] at ready
  | trailer more ih =>
    rw [readFrom_trailer waits]
    exact ih going first ready waits uses
  | @data _ decoder' bs output coming pieces _ decoded more ih =>
    subst uses
    rw [readFrom_data waits decoded]
    have joined : (s.lines.push output).held ++ coming = line ++ newline :: rest :=
      (List.append_assoc _ _ _).trans first
    by_cases ready : newline ∈ (s.lines.push output).held
    · exact readFrom_held more going whole joined ready
    · exact ih (s := { s with decoder := decoder', lines := s.lines.push output }) going joined ready
        (ready?_eq_none going ready) rfl

/-- What becomes of a read that finds no line but only this tail: it meets the end of the body, or
it fails. -/
def Stops (s : LogStream) (tail : List UInt8) (read : Option Outcome × LogStream) : Stop → Prop
  | .dry decoder => read = (({ s with decoder, lines := ⟨tail⟩ } : LogStream).withPieces []).atEnd
  | .bad _ fault => read.1 = some (.failed fault)

/-- Without another line a stream takes in all that is to come, and then it stops. -/
theorem readFrom_tail (takes : Takes s.decoder pieces coming stop) (going : s.ended = false)
    (unended : newline ∉ s.lines.held ++ coming) :
    s.Stops (s.lines.held ++ coming) (s.readFrom pieces) stop := by
  have waits := ready?_eq_none going fun held => unended (List.mem_append_left _ held)
  generalize uses : s.decoder = decoder at takes
  induction takes generalizing s with
  | dry =>
    subst uses
    simp [Stops, readFrom, waits]
  | bad decoded =>
    subst uses
    simp [Stops, readFrom, waits, accept_eq decoded]
  | trailer more ih =>
    rw [readFrom_trailer waits]
    exact ih going unended waits uses
  | @data _ decoder' bs output coming pieces stop decoded more ih =>
    subst uses
    rw [← List.append_assoc] at unended
    have := ih (s := { s with decoder := decoder', lines := s.lines.push output }) going unended
      (ready?_eq_none going fun held => unended (List.mem_append_left _ held)) rfl
    rw [readFrom_data waits decoded, ← List.append_assoc]
    cases stop <;> exact this

/-! ## Reads one after the other -/

/-- The outcome of a read that comes after so many others, if it returns. -/
def outcome? (s : LogStream) : Nat → Option Outcome
  | 0 => s.read.1
  | k + 1 => s.read.2.outcome? k

/-- The reads of a stream give its lines, and are then those of a stream that has only the tail
left. -/
theorem Holds.outcomes (h : s.Holds bs stop) (division : Lines bs lines tail) :
    (∀ k line, lines[k]? = some line → s.outcome? k = some (.line (Utf8.text (chomp line)))) ∧
      ∃ t : LogStream, t.Holds tail stop ∧ t.body.ending = s.body.ending ∧
        ∀ k, s.outcome? (lines.length + k) = t.outcome? k := by
  induction lines generalizing s bs with
  | nil =>
    obtain ⟨rfl, -⟩ := Lines.nil_iff.1 division
    exact ⟨by simp, s, h, rfl, by simp⟩
  | cons line lines ih =>
    obtain ⟨rest, rfl, whole, division⟩ := Lines.cons_iff.1 division
    obtain ⟨going, coming, takes, first⟩ := h
    obtain ⟨t, read, holds, ending⟩ := readFrom_line takes going whole first
    obtain ⟨later, u, last, same, after⟩ := ih holds division
    have read : s.read = _ := read
    refine ⟨?_, u, last, same.trans ending, ?_⟩
    · intro k l at_k
      cases k with
      | zero =>
        obtain rfl : line = l := by simpa using at_k
        simp [outcome?, read]
      | succ k => simpa [outcome?, read] using later k l (by simpa using at_k)
    · intro k
      rw [List.length_cons, Nat.add_right_comm, outcome?, read]
      exact after k

theorem outcome?_of_ended (done : s.ended = true) (empty : s.lines.held = []) (k : Nat) :
    s.outcome? k = some (.ended none) := by
  have ready : s.ready? = some (.ended none, s) := by
    obtain ⟨body, decoder, lines, ended⟩ := s
    simp_all [ready?, Splitter.next?, Splitter.takeRest, cutAtNewline]
  have read : s.read = (some (.ended none), s) := readFrom_of_ready ready _
  induction k with
  | zero => simp [outcome?, read]
  | succ k ih => simpa [outcome?, read] using ih

theorem atEnd_of_complete (complete : s.body.ending = .complete)
    (clean : s.decoder.all (·.isEmpty) = true) :
    s.atEnd = (some (.ended (if s.lines.held = [] then none else some (Utf8.text s.lines.held))),
      { s with lines := {}, ended := true }) := by
  obtain ⟨body, decoder, ⟨held⟩, ended⟩ := s
  by_cases empty : held = [] <;> simp_all [atEnd, Splitter.takeRest]

/-- What comes of the read after `k` others when these are all the lines and the tail: the end comes
once with the tail, if there is any, and then without. -/
def told (lines : List (List UInt8)) (tail : List UInt8) (k : Nat) : Outcome :=
  match lines[k]? with
  | some line => .line (Utf8.text (chomp line))
  | none => .ended (if k = lines.length ∧ tail ≠ [] then some (Utf8.text tail) else none)

/-- A complete body is read to its end: all lines, and then the end for ever. -/
theorem Holds.tells_all (h : s.Holds bs (.dry decoder)) (clean : decoder.all (·.isEmpty) = true)
    (complete : s.body.ending = .complete) (division : Lines bs lines tail) (k : Nat) :
    s.outcome? k = some (told lines tail k) := by
  obtain ⟨early, t, ⟨going, coming, takes, last⟩, ending, late⟩ := h.outcomes division
  rw [told]
  cases at_k : lines[k]? with
  | some line => exact early k line at_k
  | none =>
    obtain ⟨j, rfl⟩ := Nat.exists_eq_add_of_le (List.getElem?_eq_none_iff.1 at_k)
    rw [late]
    have read : t.read = _ := last ▸ readFrom_tail takes going (last ▸ division.unended)
    rw [atEnd_of_complete (by exact ending.trans complete) (by exact clean)] at read
    cases j with
    | zero => by_cases empty : tail = [] <;> simp [outcome?, read, withPieces, empty]
    | succ j =>
      rw [outcome?, read, outcome?_of_ended rfl rfl]
      simp

end LogStream

open LogStream

/-- A complete body of frames, cut into pieces anywhere, is read like a body that holds the payload
of the frames as it is, also cut anywhere: each read gives the next line, then one gives what
follows the last newline, and all after it say that the stream is over. -/
theorem framed_reads_as_raw {frames : List Frame} (sound : ∀ f ∈ frames, f.Sound)
    {framed raw : List Piece} (encoded : content framed = frames.flatMap Frame.encode)
    (plain : content raw = frames.flatMap Frame.payload) :
    ∃ lines tail, Lines (frames.flatMap Frame.payload) lines tail ∧
      ∀ k, (start { pieces := framed } false).outcome? k = some (told lines tail k) ∧
        (start { pieces := raw } true).outcome? k = some (told lines tail k) := by
  refine ⟨_, _, lines_splitLines _, fun k => ⟨?_, ?_⟩⟩
  · have whole : unframe ([] ++ content framed) = (frames.flatMap Frame.payload, [], none) := by
      have off := unframe_encode sound []
      rw [show unframe [] = ([], [], none) from unframe_of_short rfl] at off
      simpa [encoded] using off
    have takes := takes_framed (d := {}) rfl whole
    have holds : (start { pieces := framed } false).Holds _ (.dry (some ⟨[]⟩)) :=
      ⟨rfl, _, takes, rfl⟩
    exact holds.tells_all rfl rfl (lines_splitLines _) k
  · have takes := plain ▸ takes_raw raw
    have holds : (start { pieces := raw } true).Holds _ (.dry none) := ⟨rfl, _, takes, rfl⟩
    exact holds.tells_all rfl rfl (lines_splitLines _) k

/-- Frames that cut through a character and between carriage return and newline, one of them
empty. -/
def scattered : List Frame :=
  [⟨1, (7, 0, 9), [195]⟩, ⟨2, (0, 0, 0), []⟩, ⟨0, (0, 0, 0), [169, 13]⟩,
    ⟨1, (0, 0, 0), [10, 120]⟩]

/-- The frames in pieces that cut through a header and through a payload. -/
def scatteredPieces : List Piece :=
  let bs := scattered.flatMap Frame.encode
  [.data (bs.take 3), .trailer, .data (bs.drop 3 |>.take 23), .data [], .data (bs.drop 26)]

theorem scattered_reads_as_raw :
    content scatteredPieces = scattered.flatMap Frame.encode ∧
    ∀ k, (start { pieces := scatteredPieces } false).outcome? k =
        some (told [[195, 169, 13]] [120] k) ∧
      (start { pieces := [.data [195], .trailer, .data [169, 13, 10, 120]] } true).outcome? k =
        some (told [[195, 169, 13]] [120] k) := by
  have sound : ∀ f ∈ scattered, f.Sound := by
    simp only [scattered, List.forall_mem_cons]
    exact ⟨⟨by decide, by decide⟩, ⟨by decide, by decide⟩, ⟨by decide, by decide⟩,
      ⟨by decide, by decide⟩, by simp⟩
  have encoded : content scatteredPieces = scattered.flatMap Frame.encode := by decide
  have plain : content [.data [195], .trailer, .data [169, 13, 10, 120]] =
      scattered.flatMap Frame.payload := by decide
  obtain ⟨lines, tail, division, reads⟩ := framed_reads_as_raw sound encoded plain
  have known : Lines (scattered.flatMap Frame.payload) [[195, 169, 13]] [120] :=
    ⟨by decide, by decide, by decide⟩
  obtain ⟨rfl, rfl⟩ := division.unique known
  exact ⟨encoded, reads⟩

example : (List.range 4).map (told [[195, 169, 13]] [120]) =
    [.line "é", .ended (some "x"), .ended none, .ended none] := by decide +kernel

end Chronicle
