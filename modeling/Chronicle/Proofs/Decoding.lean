import Chronicle.Proofs.Frames
import Chronicle.Stream.Lines
import Mathlib.Data.List.Induction
/-!
# Decoding chunk by chunk

A decoder is fed chunks one after the other and pushes what it gets out of them into a splitter.
`Framing` says which complete frames are at the front of a whole input and what follows them,
without a word on how they are found; every input has exactly one. Whatever the chunks, a decoder
has pushed the payloads of these frames and keeps what follows them, and a call fails exactly when a
bad header follows: `Unpacking.unpacks_whole_input`.
-/

namespace Chronicle

variable {bs payload rest rest' : List UInt8} {frames frames' : List Frame} {stream : UInt8}

/-- An input is these frames and a rest that does not begin with another one. -/
structure Framing (bs : List UInt8) (frames : List Frame) (rest : List UInt8) : Prop where
  joined : bs = frames.flatMap Frame.encode ++ rest
  sound : ∀ f ∈ frames, f.Sound
  incomplete : ∀ f : Frame, f.Sound → ¬ f.encode <+: rest

/-- At the front is a complete header, of a stream that does not exist. -/
structure BeginsBadly (bs : List UInt8) (stream : UInt8) : Prop where
  header : 8 ≤ bs.length
  first : bs.head? = some stream
  unknown : 2 < stream

/-- What a decoder says of a stream that does not exist. -/
def Fault.unknownStream (stream : UInt8) : Fault := .frame s!"unknown stream type {stream}"

/-! ## What is at the front -/

theorem bigEndian_of_bytes (a b c d : UInt8) :
    bigEndian (((a.toNat * 256 + b.toNat) * 256 + c.toNat) * 256 + d.toNat) = [a, b, c, d] := by
  have := a.toNat_lt
  have := b.toNat_lt
  have := c.toNat_lt
  have := d.toNat_lt
  simp only [bigEndian, List.cons.injEq, ← UInt8.toNat_inj, UInt8.toNat_ofNat', and_true]
  omega

/-- Only a complete frame comes off. -/
theorem frame_of_peel (h : peel bs = .frame payload rest) :
    ∃ f : Frame, f.Sound ∧ f.payload = payload ∧ bs = f.encode ++ rest := by
  unfold peel at h
  split at h
  · next stream x y z a b c d body =>
    split at h
    · cases h
    · next known =>
      simp only at h
      split at h
      · cases h
      · next enough =>
        cases h
        have := a.toNat_lt
        have := b.toNat_lt
        have := c.toNat_lt
        have := d.toNat_lt
        have size := List.length_take_of_le (Nat.not_lt.1 enough)
        refine ⟨⟨stream, (x, y, z), body.take _⟩, ⟨UInt8.not_lt.1 known, ?_⟩, rfl, ?_⟩
        · simp only [size]
          omega
        · simp only [Frame.encode, size, bigEndian_of_bytes, List.cons_append, List.nil_append,
            List.take_append_drop]
  · cases h

theorem beginsBadly_of_peel (h : peel bs = .unknown stream) : BeginsBadly bs stream := by
  unfold peel at h
  split at h
  · split at h
    · next unknown =>
      cases h
      exact ⟨by simp, rfl, unknown⟩
    · simp only at h
      split at h <;> cases h
  · cases h

theorem BeginsBadly.peel (h : BeginsBadly bs stream) : peel bs = .unknown stream := by
  obtain ⟨header, first, unknown⟩ := h
  obtain ⟨rest, rfl⟩ := List.head?_eq_some_iff.1 first
  exact peel_unknown unknown (by simpa using header)

theorem unframe_eq_some_iff (none : ∀ f : Frame, f.Sound → ¬ f.encode <+: bs) :
    (unframe bs).2.2 = some stream ↔ BeginsBadly bs stream := by
  constructor
  · intro h
    cases found : peel bs with
    | frame payload rest =>
      obtain ⟨f, sound, -, rfl⟩ := frame_of_peel found
      exact absurd (List.prefix_append _ _) (none f sound)
    | short => simp [unframe_of_short found] at h
    | unknown other =>
      obtain rfl : other = stream := by simpa [unframe_of_unknown found] using h
      exact beginsBadly_of_peel found
  · intro bad
    rw [unframe_of_unknown bad.peel]

/-! ## One division into frames -/

theorem Frame.encode_append_inj {f g : Frame} (f_sound : f.Sound) (g_sound : g.Sound)
    (same : f.encode ++ rest = g.encode ++ rest') : f = g ∧ rest = rest' := by
  have peeled := congrArg peel same
  rw [peel_encode f_sound, peel_encode g_sound, Peeled.frame.injEq] at peeled
  obtain ⟨payload, rfl⟩ := peeled
  obtain ⟨fs, ⟨fx, fy, fz⟩, fp⟩ := f
  obtain ⟨gs, ⟨gx, gy, gz⟩, gp⟩ := g
  simp_all [Frame.encode]

namespace Framing

variable {f : Frame}

theorem nil_iff :
    Framing bs [] rest ↔ bs = rest ∧ ∀ f : Frame, f.Sound → ¬ f.encode <+: rest := by
  constructor
  · intro h
    exact ⟨by simpa using h.joined, h.incomplete⟩
  · rintro ⟨rfl, incomplete⟩
    exact ⟨by simp, by simp, incomplete⟩

theorem cons_iff : Framing bs (f :: frames) rest ↔
    ∃ more, bs = f.encode ++ more ∧ f.Sound ∧ Framing more frames rest := by
  constructor
  · intro h
    refine ⟨frames.flatMap Frame.encode ++ rest, ?_, h.sound f (by simp), rfl, ?_, h.incomplete⟩
    · simpa using h.joined
    · exact fun g mem => h.sound g (by simp [mem])
  · rintro ⟨more, rfl, sound, h⟩
    exact ⟨by simp [h.joined], List.forall_mem_cons.2 ⟨sound, h.sound⟩, h.incomplete⟩

/-- Every input has only one division into frames and a rest. -/
theorem unique (h : Framing bs frames rest) (h' : Framing bs frames' rest') :
    frames = frames' ∧ rest = rest' := by
  induction frames generalizing bs frames' with
  | nil =>
    obtain ⟨rfl, incomplete⟩ := nil_iff.1 h
    cases frames' with
    | nil => exact ⟨rfl, (nil_iff.1 h').1⟩
    | cons g frames' =>
      obtain ⟨more, rfl, sound, -⟩ := cons_iff.1 h'
      exact absurd (List.prefix_append _ _) (incomplete g sound)
  | cons f frames ih =>
    obtain ⟨more, rfl, sound, h⟩ := cons_iff.1 h
    cases frames' with
    | nil =>
      obtain ⟨rfl, incomplete⟩ := nil_iff.1 h'
      exact absurd (List.prefix_append _ _) (incomplete f sound)
    | cons g frames' =>
      obtain ⟨more', same, sound', h'⟩ := cons_iff.1 h'
      obtain ⟨rfl, rfl⟩ := Frame.encode_append_inj sound sound' same
      obtain ⟨rfl, rfl⟩ := ih h h'
      exact ⟨rfl, rfl⟩

/-- Taking frames off stops at the rest. -/
theorem unframe_eq (h : Framing bs frames rest) :
    unframe bs = (frames.flatMap Frame.payload, rest, (unframe rest).2.2) := by
  have stays : unframe rest = ([], rest, (unframe rest).2.2) := by
    cases found : peel rest with
    | frame payload more =>
      obtain ⟨f, sound, -, rfl⟩ := frame_of_peel found
      exact absurd (List.prefix_append _ _) (h.incomplete f sound)
    | short => rw [unframe_of_short found]
    | unknown stream => rw [unframe_of_unknown found]
  rw [h.joined, unframe_encode h.sound, stays, List.append_nil]

end Framing

/-- Every input can be divided. -/
theorem exists_framing (bs : List UInt8) : ∃ frames rest, Framing bs frames rest := by
  induction size : bs.length using Nat.strongRecOn generalizing bs with
  | ind size ih =>
    by_cases front : ∃ f : Frame, f.Sound ∧ f.encode <+: bs
    · obtain ⟨f, sound, rest, rfl⟩ := front
      have shorter : rest.length < (f.encode ++ rest).length :=
        length_lt_of_peel (peel_encode sound rest)
      obtain ⟨frames, left, more⟩ := ih _ (size ▸ shorter) rest rfl
      exact ⟨f :: frames, left, Framing.cons_iff.2 ⟨rest, rfl, sound, more⟩⟩
    · have none : ∀ f : Frame, f.Sound → ¬ f.encode <+: bs :=
        fun f sound begins => front ⟨f, sound, begins⟩
      exact ⟨[], bs, Framing.nil_iff.2 ⟨rfl, none⟩⟩

theorem framing_encode (sound : ∀ f ∈ frames, f.Sound) :
    Framing (frames.flatMap Frame.encode) frames [] := by
  refine ⟨by simp, sound, ?_⟩
  rintro f - front
  have := List.prefix_nil.1 front
  simp [Frame.encode] at this

/-! ## Feeding chunks -/

/-- A decoder, the splitter that its output goes to, and what its calls have returned. -/
structure Unpacking where
  decoder : FrameDecoder := {}
  lines : Splitter := {}
  answers : List (Option Fault) := []

namespace Unpacking

/-- Feeds a chunk to the decoder. -/
def feed (u : Unpacking) (chunk : List UInt8) : Unpacking :=
  let (payload, decoder, fault) := u.decoder.decode chunk
  { decoder, lines := u.lines.push payload, answers := u.answers ++ [fault] }

/-- Feeds chunks to a new decoder, one after the other. -/
def ofChunks (chunks : List (List UInt8)) : Unpacking := chunks.foldl feed {}

variable {chunks : List (List UInt8)}

theorem ofChunks_append (chunks : List (List UInt8)) (chunk : List UInt8) :
    ofChunks (chunks ++ [chunk]) = (ofChunks chunks).feed chunk := by
  simp [ofChunks]

end Unpacking

/-- What follows the frames at the front gives nothing more by itself. -/
theorem unframe_left (bs : List UInt8) :
    unframe (unframe bs).2.1 = ([], (unframe bs).2) := by
  obtain ⟨frames, rest, framing⟩ := exists_framing bs
  have left : Framing rest [] rest := Framing.nil_iff.2 ⟨rfl, framing.incomplete⟩
  rw [framing.unframe_eq]
  exact left.unframe_eq

/-- More bytes go behind what is left, also behind a bad header. -/
theorem unframe_more (bs more : List UInt8) :
    unframe (bs ++ more) = ((unframe bs).1 ++ (unframe ((unframe bs).2.1 ++ more)).1,
      (unframe ((unframe bs).2.1 ++ more)).2) := by
  obtain ⟨payload, left, bad, found⟩ : ∃ payload left bad, unframe bs = (payload, left, bad) :=
    ⟨_, _, _, rfl⟩
  rw [found]
  cases bad with
  | none => exact unframe_append found more
  | some stream =>
    have again : unframe left = ([], left, some stream) := by
      have := unframe_left bs
      rwa [found] at this
    rw [unframe_append_unknown found, unframe_append_unknown again, List.append_nil]

namespace Unpacking

variable {chunks : List (List UInt8)} {j k : Nat} {fault : Fault}

/-- What has been pushed and what is kept depend on all bytes together. -/
theorem state_ofChunks (chunks : List (List UInt8)) :
    (ofChunks chunks).lines.held = (unframe chunks.flatten).1 ∧
      (ofChunks chunks).decoder.held = (unframe chunks.flatten).2.1 := by
  induction chunks using List.reverseRecOn with
  | nil => exact ⟨by rw [List.flatten_nil, unframe_of_short rfl]; rfl,
      by rw [List.flatten_nil, unframe_of_short rfl]; rfl⟩
  | append_singleton chunks chunk ih =>
    obtain ⟨pushed, kept⟩ := ih
    rw [ofChunks_append, List.flatten_append, List.flatten_singleton, unframe_more, ← kept,
      ← pushed]
    exact ⟨rfl, rfl⟩

theorem answers_length (chunks : List (List UInt8)) :
    (ofChunks chunks).answers.length = chunks.length := by
  induction chunks using List.reverseRecOn with
  | nil => rfl
  | append_singleton chunks chunk ih =>
    rw [ofChunks_append, List.length_append, ← ih]
    exact List.length_append

/-- What a call has returned depends on all bytes up to then. -/
theorem answer_eq (bound : k < chunks.length) : (ofChunks chunks).answers[k]? =
    some ((unframe (chunks.take (k + 1)).flatten).2.2.map Fault.unknownStream) := by
  induction chunks using List.reverseRecOn with
  | nil => simp at bound
  | append_singleton chunks chunk ih =>
    have longer : (ofChunks (chunks ++ [chunk])).answers = (ofChunks chunks).answers ++
        [(unframe (chunks ++ [chunk]).flatten).2.2.map Fault.unknownStream] := by
      rw [List.flatten_append, List.flatten_singleton, unframe_more, ← (state_ofChunks chunks).2,
        ofChunks_append]
      rfl
    rw [longer]
    by_cases last : k = chunks.length
    · subst last
      rw [List.getElem?_append_right (Nat.le_of_eq (answers_length chunks)), answers_length,
        Nat.sub_self, List.take_of_length_le (by simp)]
      rfl
    · have before : k < chunks.length := by
        rw [List.length_append, List.length_singleton] at bound
        omega
      rw [List.getElem?_append_left (by rwa [answers_length]), ih before,
        List.take_append_of_le_length before]

/-- A call fails exactly when a bad header follows the frames of what has come in by then. -/
theorem fails_iff (bound : k < chunks.length) :
    (ofChunks chunks).answers[k]? = some (some fault) ↔ ∃ frames rest stream,
      Framing (chunks.take (k + 1)).flatten frames rest ∧ BeginsBadly rest stream ∧
        fault = .unknownStream stream := by
  obtain ⟨frames, rest, framing⟩ := exists_framing (chunks.take (k + 1)).flatten
  rw [answer_eq bound, framing.unframe_eq, Option.some_inj, Option.map_eq_some_iff]
  constructor
  · rintro ⟨stream, bad, rfl⟩
    exact ⟨frames, rest, stream, framing, (unframe_eq_some_iff framing.incomplete).1 bad, rfl⟩
  · rintro ⟨_, _, stream, framing', bad, rfl⟩
    obtain ⟨-, rfl⟩ := framing.unique framing'
    exact ⟨stream, (unframe_eq_some_iff framing.incomplete).2 bad, rfl⟩

/-- What has come in before has come in later too. -/
theorem exists_flatten_take (le : j ≤ k) (chunks : List (List UInt8)) :
    ∃ more, (chunks.take k).flatten = (chunks.take j).flatten ++ more := by
  obtain ⟨more, same⟩ : chunks.take j <+: chunks.take k := List.take_prefix_take_left le
  exact ⟨more.flatten, by rw [← same, List.flatten_append]⟩

/-- After a call that failed every call fails in the same way and pushes nothing. -/
theorem fails_again (bound : k < chunks.length) (later : j < k)
    (failed : (ofChunks chunks).answers[j]? = some (some fault)) :
    (ofChunks chunks).answers[k]? = some (some fault) ∧
      (ofChunks (chunks.take (k + 1))).lines = (ofChunks (chunks.take k)).lines := by
  rw [answer_eq (Nat.lt_trans later bound), Option.some_inj] at failed
  obtain ⟨stream, bad, rfl⟩ := Option.map_eq_some_iff.1 failed
  obtain ⟨payload, left, found⟩ : ∃ payload left,
      unframe (chunks.take (j + 1)).flatten = (payload, left, some stream) :=
    ⟨_, _, Prod.ext rfl (Prod.ext rfl bad)⟩
  have stuck (n : Nat) (le : j + 1 ≤ n) : ∃ left,
      unframe (chunks.take n).flatten = (payload, left, some stream) := by
    obtain ⟨more, same⟩ := exists_flatten_take le chunks
    exact ⟨_, same ▸ unframe_append_unknown found more⟩
  obtain ⟨now, at_call⟩ := stuck (k + 1) (by omega)
  obtain ⟨before, at_last⟩ := stuck k later
  constructor
  · rw [answer_eq bound, at_call]
    rfl
  · have same : (ofChunks (chunks.take (k + 1))).lines.held =
        (ofChunks (chunks.take k)).lines.held := by
      rw [(state_ofChunks _).1, (state_ofChunks _).1, at_call, at_last]
    exact congrArg Splitter.mk same

theorem isEmpty_iff : (ofChunks chunks).decoder.isEmpty = true ↔
    ∃ all : List Frame, (∀ f ∈ all, f.Sound) ∧ chunks.flatten = all.flatMap Frame.encode := by
  obtain ⟨frames, rest, framing⟩ := exists_framing chunks.flatten
  rw [FrameDecoder.isEmpty, (state_ofChunks chunks).2, framing.unframe_eq, List.isEmpty_iff]
  constructor
  · rintro rfl
    exact ⟨frames, framing.sound, by simpa using framing.joined⟩
  · rintro ⟨all, sound, whole⟩
    exact (framing.unique (whole ▸ framing_encode sound)).2

/-- Chunks of encoded frames are decoded without a fault. -/
theorem decodes_encoded {all : List Frame} (sound : ∀ f ∈ all, f.Sound)
    (whole : chunks.flatten = all.flatMap Frame.encode) :
    (ofChunks chunks).lines.held = all.flatMap Frame.payload ∧
      ∀ answer ∈ (ofChunks chunks).answers, answer = none := by
  have framing : Framing chunks.flatten all [] := whole ▸ framing_encode sound
  have decoded : unframe chunks.flatten = (all.flatMap Frame.payload, [], none) := by
    rw [framing.unframe_eq, unframe_of_short rfl]
  refine ⟨by rw [(state_ofChunks chunks).1, decoded], ?_⟩
  intro answer mem
  obtain ⟨k, bound, rfl⟩ := List.mem_iff_getElem.1 mem
  rw [answers_length] at bound
  have told := answer_eq bound
  rw [List.getElem?_eq_getElem (by rwa [answers_length]), Option.some_inj] at told
  rw [told, Option.map_eq_none_iff]
  -- A bad header among the first chunks would be in the whole input.
  obtain ⟨more, same⟩ := exists_flatten_take (Nat.succ_le_of_lt bound) chunks
  rw [List.take_length] at same
  cases bad : (unframe (chunks.take (k + 1)).flatten).2.2 with
  | none => rfl
  | some stream =>
    have := unframe_append_unknown (Prod.ext rfl (Prod.ext rfl bad)) more
    rw [← same, decoded] at this
    simp at this

/-- Whatever the chunks, a decoder has pushed the payloads of the complete frames at the front of
the whole input, and keeps what follows them. It keeps nothing exactly at the end of a frame. A call
fails exactly when a bad header follows the frames of the input so far, and from then on every call
fails in the same way and pushes nothing. Frames that were encoded are decoded. -/
theorem unpacks_whole_input (chunks : List (List UInt8)) :
    (∃ frames rest, Framing chunks.flatten frames rest ∧
      (ofChunks chunks).lines.held = frames.flatMap Frame.payload ∧
      (ofChunks chunks).decoder.held = rest) ∧
    ((ofChunks chunks).decoder.isEmpty = true ↔
      ∃ all : List Frame, (∀ f ∈ all, f.Sound) ∧ chunks.flatten = all.flatMap Frame.encode) ∧
    (ofChunks chunks).answers.length = chunks.length ∧
    (∀ k < chunks.length, ∀ fault, (ofChunks chunks).answers[k]? = some (some fault) ↔
      ∃ frames rest stream, Framing (chunks.take (k + 1)).flatten frames rest ∧
        BeginsBadly rest stream ∧ fault = .unknownStream stream) ∧
    (∀ k < chunks.length, ∀ j < k, ∀ fault, (ofChunks chunks).answers[j]? = some (some fault) →
      (ofChunks chunks).answers[k]? = some (some fault) ∧
        (ofChunks (chunks.take (k + 1))).lines = (ofChunks (chunks.take k)).lines) ∧
    ∀ all : List Frame, (∀ f ∈ all, f.Sound) → chunks.flatten = all.flatMap Frame.encode →
      (ofChunks chunks).lines.held = all.flatMap Frame.payload ∧
        ∀ answer ∈ (ofChunks chunks).answers, answer = none := by
  refine ⟨?_, isEmpty_iff, answers_length chunks, fun k bound fault => fails_iff bound,
    fun k bound j later fault => fails_again bound later, fun all => decodes_encoded⟩
  obtain ⟨frames, rest, framing⟩ := exists_framing chunks.flatten
  obtain ⟨pushed, kept⟩ := state_ofChunks chunks
  rw [framing.unframe_eq] at pushed kept
  exact ⟨frames, rest, framing, pushed, kept⟩

end Unpacking

end Chronicle
