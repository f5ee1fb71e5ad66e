import FrameLink.Frame.Basic
import FrameLink.Stream.Sink

/-!
Writing frames to a stream.

A frame is refused before a single byte is written, or written whole and flushed, or the failure is
reported. Interrupted calls are repeated, and a partial write goes on where it stopped.
-/

namespace FrameLink.Writer

variable {σ : Type} [ByteSink σ]

/-- Writes every byte; a sink that takes none of them counts as closed. -/
def writeAll (s : σ) (b : Bytes) : Except FrameError Unit × σ :=
  if _hb : b = [] then (.ok (), s) else
  match _h : (ByteSink.write s b).1 with
  | .ok 0 => (.error .connectionClosed, (ByteSink.write s b).2)
  | .ok (n + 1) => writeAll (ByteSink.write s b).2 (b.drop (n + 1))
  | .error e =>
    if _hi : e.kind = .interrupted then writeAll (ByteSink.write s b).2 b
    else (.error (.io e), (ByteSink.write s b).2)
termination_by b.length + ByteSink.patience s
decreasing_by
  · have := ByteSink.patience_write_le s b
    have := List.length_pos_iff.mpr _hb
    simp only [List.length_drop]
    omega
  · have := ByteSink.patience_write_lt s b e _h _hi
    omega

def flush (s : σ) : Except FrameError Unit × σ :=
  match _h : (ByteSink.flush s).1 with
  | .ok () => (.ok (), (ByteSink.flush s).2)
  | .error e =>
    if _hi : e.kind = .interrupted then flush (ByteSink.flush s).2
    else (.error (.io e), (ByteSink.flush s).2)
termination_by ByteSink.patience s
decreasing_by exact ByteSink.patience_flush_lt s e _h _hi

/-- Writes the wire form of a frame that the limits admit, and flushes it. -/
def writeFrame (l : Limits) (s : σ) (f : Frame) : Except FrameError Unit × σ :=
  match l.refusal? f with
  | some e => (.error e, s)
  | none =>
    match writeAll s f.wire with
    | (.ok (), s) => flush s
    | failed => failed

def send (l : Limits) (s : σ) (kind : Kind) (payload : Bytes) : Except FrameError Unit × σ :=
  match Frame.make kind payload with
  | .ok f => writeFrame l s f
  | .error e => (.error e, s)

end FrameLink.Writer
