import FrameLink.Frame.Scanner

/-!
Frames in and out of buffers that the caller owns.
-/

namespace FrameLink

/-- The limits of both directions, and the tally of what was decoded. -/
structure Codec where
  limits : Limits := {}
  tally : ScanTally := {}
  deriving DecidableEq

namespace Codec

/-- Takes the next frame out of a source buffer; `atEnd` when no more bytes will come. -/
def decode (c : Codec) (atEnd : Bool) (source : Bytes) : Option Frame × Bytes × Codec :=
  let (f?, rest, t) := Scanner.scan c.limits atEnd source c.tally
  (f?, rest, { c with tally := t })

def encode (c : Codec) (f : Frame) (destination : Bytes) : Except FrameError Bytes :=
  match c.limits.refusal? f with
  | some e => .error e
  | none => .ok (destination ++ f.wire)

end Codec

end FrameLink
