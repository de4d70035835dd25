import Chronicle.Stream.Frames
import Mathlib.Data.List.Basic
/-!
# Frames of a whole body

Taking frames off a body does not depend on where the body is cut: what is left of one part goes in
front of the next (`unframe_append`). Frames that were written one after the other come off again
(`unframe_encode`), whatever follows them.
-/

namespace Chronicle

variable {bs left payload rest more : List UInt8} {stream : UInt8} {frames : List Frame}

/-! ## One frame -/

/-- A frame that can be written: its stream exists, and its length fits into four bytes. -/
structure Frame.Sound (f : Frame) : Prop where
  stream : f.stream ≤ 2
  length : f.payload.length < 4294967296

theorem bigEndian_value {n : Nat} (small : n < 4294967296) :
    (((UInt8.ofNat (n / 16777216)).toNat * 256 + (UInt8.ofNat (n / 65536)).toNat) * 256 +
      (UInt8.ofNat (n / 256)).toNat) * 256 + (UInt8.ofNat n).toNat = n := by
  simp only [UInt8.toNat_ofNat']
  omega

theorem peel_encode {f : Frame} (sound : f.Sound) (rest : List UInt8) :
    peel (f.encode ++ rest) = .frame f.payload rest := by
  have known : ¬ f.stream > 2 := UInt8.not_lt.2 sound.stream
  simp only [Frame.encode, bigEndian, List.cons_append, List.nil_append, peel, known, if_false,
    bigEndian_value sound.length]
  simp

theorem peel_append (h : peel bs = .frame payload rest) (more : List UInt8) :
    peel (bs ++ more) = .frame payload (rest ++ more) := by
  unfold peel at h
  split at h
  · next stream _ _ _ a b c d body =>
    split at h
    · cases h
    · next known =>
      simp only at h
      split at h
      · cases h
      · next enough =>
        cases h
        rw [Nat.not_lt] at enough
        have longer : ¬ (body ++ more).length <
            ((a.toNat * 256 + b.toNat) * 256 + c.toNat) * 256 + d.toNat := by
          rw [List.length_append]
          omega
        simp only [List.cons_append, peel, known, if_false, longer,
          List.take_append_of_le_length enough, List.drop_append_of_le_length enough]
  · cases h

theorem peel_append_unknown (h : peel bs = .unknown stream) (more : List UInt8) :
    peel (bs ++ more) = .unknown stream := by
  unfold peel at h
  split at h
  · split at h
    · next unknown =>
      cases h
      simp only [List.cons_append, peel, unknown, if_true]
    · simp only at h
      split at h <;> cases h
  · cases h

theorem peel_unknown (unknown : 2 < stream) (header : 7 ≤ rest.length) :
    peel (stream :: rest) = .unknown stream := by
  match rest, header with
  | _ :: _ :: _ :: _ :: _ :: _ :: _ :: _, _ => simp [peel, unknown]

theorem peel_of_length_lt (short : bs.length < 8) : peel bs = .short := by
  unfold peel
  split
  · simp only [List.length_cons] at short
    omega
  · rfl

/-- A frame that is not complete stays where it is. -/
theorem peel_of_cut {f : Frame} (sound : f.Sound) (cut : bs <+: f.encode) (proper : bs ≠ f.encode) :
    peel bs = .short := by
  obtain ⟨missing, whole⟩ := cut
  have last : missing ≠ [] := by
    rintro rfl
    exact proper (by simpa using whole)
  cases found : peel bs with
  | short => rfl
  | frame payload rest =>
    -- The frame would have come off before its last bytes.
    have off := peel_append found missing
    rw [whole, ← List.append_nil f.encode, peel_encode sound] at off
    obtain ⟨-, none⟩ := Peeled.frame.inj off
    exact absurd (List.append_eq_nil_iff.1 none.symm).2 last
  | unknown stream =>
    have off := peel_append_unknown found missing
    rw [whole, ← List.append_nil f.encode, peel_encode sound] at off
    cases off

/-! ## All frames at the front -/

theorem unframe_of_frame (h : peel bs = .frame payload rest) :
    unframe bs = (payload ++ (unframe rest).1, (unframe rest).2) := by
  rw [unframe]
  split
  · next found =>
    obtain ⟨rfl, rfl⟩ := Peeled.frame.inj (h.symm.trans found)
    rfl
  · next found => cases h.symm.trans found
  · next found => cases h.symm.trans found

theorem unframe_of_short (h : peel bs = .short) : unframe bs = ([], bs, none) := by
  rw [unframe]
  split
  · next found => cases h.symm.trans found
  · rfl
  · next found => cases h.symm.trans found

theorem unframe_of_unknown (h : peel bs = .unknown stream) :
    unframe bs = ([], bs, some stream) := by
  rw [unframe]
  split
  · next found => cases h.symm.trans found
  · next found => cases h.symm.trans found
  · next found =>
    obtain rfl := Peeled.unknown.inj (h.symm.trans found)
    rfl

/-- What is left holds no complete frame, unless its header is bad. -/
theorem peel_left (h : unframe bs = (payload, left, none)) : peel left = .short := by
  induction size : bs.length using Nat.strongRecOn generalizing bs payload with
  | ind size ih =>
    cases found : peel bs with
    | short =>
      rw [unframe_of_short found] at h
      obtain ⟨-, rfl⟩ : _ ∧ bs = left := by simpa using h
      exact found
    | unknown stream =>
      rw [unframe_of_unknown found] at h
      simp at h
    | frame first rest =>
      rw [unframe_of_frame found, Prod.mk.injEq] at h
      exact ih _ (size ▸ length_lt_of_peel found) (Prod.ext rfl h.2) rfl

/-- Bytes that arrive later go behind what is left. -/
theorem unframe_append (h : unframe bs = (payload, left, none)) (more : List UInt8) :
    unframe (bs ++ more) = (payload ++ (unframe (left ++ more)).1, (unframe (left ++ more)).2) := by
  induction size : bs.length using Nat.strongRecOn generalizing bs payload with
  | ind size ih =>
    cases found : peel bs with
    | short =>
      rw [unframe_of_short found] at h
      obtain ⟨rfl, rfl⟩ : [] = payload ∧ bs = left := by simpa using h
      simp
    | unknown stream =>
      rw [unframe_of_unknown found] at h
      simp at h
    | frame first rest =>
      rw [unframe_of_frame found, Prod.mk.injEq] at h
      obtain ⟨rfl, same⟩ := h
      rw [unframe_of_frame (peel_append found more),
        ih _ (size ▸ length_lt_of_peel found) (Prod.ext rfl same) rfl, List.append_assoc]

theorem unframe_append_unknown (h : unframe bs = (payload, left, some stream)) (more : List UInt8) :
    unframe (bs ++ more) = (payload, left ++ more, some stream) := by
  induction size : bs.length using Nat.strongRecOn generalizing bs payload with
  | ind size ih =>
    cases found : peel bs with
    | short =>
      rw [unframe_of_short found] at h
      simp at h
    | unknown other =>
      rw [unframe_of_unknown found] at h
      obtain ⟨rfl, rfl, rfl⟩ : [] = payload ∧ bs = left ∧ other = stream := by simpa using h
      rw [unframe_of_unknown (peel_append_unknown found more)]
    | frame first rest =>
      rw [unframe_of_frame found, Prod.mk.injEq] at h
      obtain ⟨rfl, same⟩ := h
      rw [unframe_of_frame (peel_append found more),
        ih _ (size ▸ length_lt_of_peel found) (Prod.ext rfl same) rfl]

theorem unframe_encode (sound : ∀ f ∈ frames, f.Sound) (rest : List UInt8) :
    unframe (frames.flatMap Frame.encode ++ rest) =
      (frames.flatMap Frame.payload ++ (unframe rest).1, (unframe rest).2) := by
  induction frames with
  | nil => simp
  | cons f frames ih =>
    rw [List.flatMap_cons, List.append_assoc, unframe_of_frame (peel_encode (sound f (by simp)) _),
      ih fun g mem => sound g (by simp [mem]), List.flatMap_cons, List.append_assoc]

end Chronicle
