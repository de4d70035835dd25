import Chronicle.Fault
/-!
# Frames

Output of a container without a terminal comes in frames: a byte for the stream, three bytes that
mean nothing, the length of the payload in four bytes, and the payload. `peel` takes one frame off
the front, `unframe` as many as there are. `FrameDecoder` does it for bytes that arrive in chunks.
-/

namespace Chronicle

/-- A piece of output. -/
structure Frame where
  stream : UInt8
  padding : UInt8 × UInt8 × UInt8
  payload : List UInt8
deriving DecidableEq, Repr

/-- A number below 2^32 in four bytes, the highest first. -/
def bigEndian (n : Nat) : List UInt8 :=
  [UInt8.ofNat (n / 16777216), UInt8.ofNat (n / 65536), UInt8.ofNat (n / 256), UInt8.ofNat n]

/-- A frame as bytes. -/
def Frame.encode (f : Frame) : List UInt8 :=
  [f.stream, f.padding.1, f.padding.2.1, f.padding.2.2] ++ bigEndian f.payload.length ++ f.payload

/-- What is at the front of a row of bytes. -/
inductive Peeled where
  /-- A complete frame. -/
  | frame (payload rest : List UInt8)
  /-- Not yet a complete frame. -/
  | short
  /-- A header whose stream is none. -/
  | unknown (stream : UInt8)
deriving DecidableEq, Repr

/-- Looks at the front of a row of bytes. -/
def peel : List UInt8 → Peeled
  | stream :: _ :: _ :: _ :: a :: b :: c :: d :: rest =>
    if stream > 2 then .unknown stream
    else
      let size := ((a.toNat * 256 + b.toNat) * 256 + c.toNat) * 256 + d.toNat
      if rest.length < size then .short else .frame (rest.take size) (rest.drop size)
  | _ => .short

theorem length_lt_of_peel {bs payload rest : List UInt8} (h : peel bs = .frame payload rest) :
    rest.length < bs.length := by
  unfold peel at h
  split at h
  · split at h
    · cases h
    · simp only at h
      split at h
      · cases h
      · cases h; simp only [List.length_drop, List.length_cons]; omega
  · cases h

/-- The payloads of the frames at the front, what follows them, and the stream of a bad header. -/
def unframe (bs : List UInt8) : List UInt8 × List UInt8 × Option UInt8 :=
  match h : peel bs with
  | .frame payload rest =>
    have := length_lt_of_peel h
    let (more, left, bad) := unframe rest
    (payload ++ more, left, bad)
  | .short => ([], bs, none)
  | .unknown stream => ([], bs, some stream)
termination_by bs.length

/-- Bytes that are not yet complete frames. -/
structure FrameDecoder where
  held : List UInt8 := []
deriving DecidableEq, Repr

namespace FrameDecoder

/-- Takes a chunk in, and gives the payloads of the frames that it completes. -/
def decode (d : FrameDecoder) (chunk : List UInt8) : List UInt8 × FrameDecoder × Option Fault :=
  let (payload, left, bad) := unframe (d.held ++ chunk)
  (payload, ⟨left⟩, bad.map fun stream => .frame s!"unknown stream type {stream}")

/-- No part of a frame is held. -/
def isEmpty (d : FrameDecoder) : Bool := d.held.isEmpty

end FrameDecoder

end Chronicle
