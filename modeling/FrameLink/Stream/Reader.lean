import FrameLink.Frame.Scanner
import FrameLink.Stream.Source

/-!
Reading frames from a stream.

A reader gives the frames its scanner already holds before it reads again. An interrupted read is
repeated; any other failure is reported and leaves the scanner as it is; at the end of the stream the
scanner is emptied frame by frame before the end is reported.
-/

namespace FrameLink

def readSize : Nat := 512

structure Reader where
  scanner : Scanner := {}
  source : Source := {}
  deriving DecidableEq

inductive ReadOutcome where
  | frame (f : Frame)
  | failed (e : FrameError)
  | blocked
  deriving DecidableEq

namespace Reader

/-- The next frame of a stream that has come to an end. -/
def atEnd (scanner : Scanner) (source : Source) : ReadOutcome × Reader :=
  match scanner.finish with
  | (some f, scanner) => (.frame f, ⟨scanner, source⟩)
  | (none, scanner) => (.failed .connectionClosed, ⟨scanner, source⟩)

def readFrame (r : Reader) : ReadOutcome × Reader :=
  match r.scanner.next with
  | (some f, scanner) => (.frame f, { r with scanner })
  | (none, scanner) =>
    match _h : r.source.read readSize with
    | (.blocked, source) => (.blocked, ⟨scanner, source⟩)
    | (.failed e, source) =>
      if e.kind = .interrupted then readFrame ⟨scanner, source⟩
      else (.failed (.io e), ⟨scanner, source⟩)
    | (.bytes [], source) => atEnd scanner source
    | (.bytes (b :: bs), source) => readFrame ⟨scanner.push (b :: bs), source⟩
termination_by r.source.weight
decreasing_by
  · exact Source.weight_read_failed _h
  · exact Source.weight_read_bytes _h (List.cons_ne_nil _ _)

end Reader

end FrameLink
