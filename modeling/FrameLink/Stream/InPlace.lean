import FrameLink.Frame.Codec
import FrameLink.Stream.Writer

/-!
Frames written by way of a buffer.

A frame is encoded behind what a buffer holds already, field by field. A writer has one buffer for all
its frames: it is cleared, the frame is encoded into it, and the bytes go out from a place in the buffer
that moves on with what the sink takes.
-/

namespace FrameLink

/-- The buffer with the wire form of a frame put behind what it holds. -/
def Frame.encodeInto (f : Frame) (buffer : Bytes) : Bytes :=
  let buffer := buffer ++ [marker]
  let buffer := buffer ++ [marker]
  let buffer := buffer ++ [f.kind]
  let buffer := buffer ++ [f.size]
  let buffer := if f.payload = [] then buffer else buffer ++ f.payload
  buffer ++ Word.bytes f.checksum

/-- Encodes a frame into the caller's buffer, or refuses it. -/
def Codec.encodeInto (c : Codec) (f : Frame) (buffer : Bytes) : Except FrameError Unit × Bytes :=
  if c.limits.payload < f.payload.length then
    (.error (.payloadTooLarge f.payload.length c.limits.payload), buffer)
  else if ¬ f.IsValid then (.error (.staleChecksum f.kind), buffer)
  else (.ok (), f.encodeInto buffer)

/-- A writer with the buffer that it encodes its frames into. -/
structure BufferedWriter (σ : Type) where
  sink : σ
  buffer : Bytes := []
  limits : Limits := {}

namespace BufferedWriter

variable {σ : Type} [ByteSink σ]

/-- Writes a buffer from a place on to its end. -/
def writeFrom (s : σ) (buffer : Bytes) (place : Nat) : Except FrameError Unit × σ :=
  if _hp : place < buffer.length then
    match _h : (ByteSink.write s (buffer.drop place)).1 with
    | .ok 0 => (.error .connectionClosed, (ByteSink.write s (buffer.drop place)).2)
    | .ok (n + 1) => writeFrom (ByteSink.write s (buffer.drop place)).2 buffer (place + (n + 1))
    | .error e =>
      if _hi : e.kind = .interrupted then
        writeFrom (ByteSink.write s (buffer.drop place)).2 buffer place
      else (.error (.io e), (ByteSink.write s (buffer.drop place)).2)
  else (.ok (), s)
termination_by buffer.length - place + ByteSink.patience s
decreasing_by
  · have := ByteSink.patience_write_le s (buffer.drop place)
    omega
  · have := ByteSink.patience_write_lt s (buffer.drop place) e _h _hi
    omega

def flush (w : BufferedWriter σ) : Except FrameError Unit × BufferedWriter σ :=
  ((Writer.flush w.sink).1, { w with sink := (Writer.flush w.sink).2 })

/-- Writes a frame that the limits admit, and flushes it. -/
def writeFrame (w : BufferedWriter σ) (f : Frame) : Except FrameError Unit × BufferedWriter σ :=
  if w.limits.payload < f.payload.length then
    (.error (.payloadTooLarge f.payload.length w.limits.payload), w)
  else if ¬ f.IsValid then (.error (.staleChecksum f.kind), w)
  else
    let w := { w with buffer := [] }
    let w := { w with buffer := f.encodeInto w.buffer }
    match writeFrom w.sink w.buffer 0 with
    | (.ok (), s) => { w with sink := s }.flush
    | (.error e, s) => (.error e, { w with sink := s })

end BufferedWriter

end FrameLink
