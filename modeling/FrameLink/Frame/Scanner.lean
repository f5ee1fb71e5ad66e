import FrameLink.Frame.Decode

/-!
Finding frames in a stream that may hold anything between them.

A scan goes over the buffered bytes once. A byte that cannot begin a frame is discarded and the scan
goes on behind it, so nothing that is refused ever swallows a frame. While more bytes may come, the
scan stops at a possible beginning; at the end of the stream it gives that up like any other byte.
-/

namespace FrameLink

structure ScanTally where
  frames : Nat := 0
  discarded : Nat := 0
  invalidMarkers : Nat := 0
  invalidKinds : Nat := 0
  invalidLengths : Nat := 0
  checksumMismatches : Nat := 0
  deriving DecidableEq, Repr

namespace ScanTally

def discard (t : ScanTally) : ScanTally := { t with discarded := t.discarded + 1 }

def found (t : ScanTally) : ScanTally := { t with frames := t.frames + 1 }

def refuse (t : ScanTally) : Rejection → ScanTally
  | .invalidMarker => { t with invalidMarkers := t.invalidMarkers + 1 }
  | .invalidKind _ => { t with invalidKinds := t.invalidKinds + 1 }
  | .invalidLength _ _ => { t with invalidLengths := t.invalidLengths + 1 }
  | .checksumMismatch _ _ _ => { t with checksumMismatches := t.checksumMismatches + 1 }

end ScanTally

/-- Bytes received and not yet accounted for, and the tally of those that are. -/
structure Scanner where
  limits : Limits := {}
  buffer : Bytes := []
  tally : ScanTally := {}
  deriving DecidableEq

namespace Scanner

/-- The first frame in the bytes, what is left of them, and the tally after it. -/
def scan (l : Limits) (atEnd : Bool) : Bytes → ScanTally → Option Frame × Bytes × ScanTally
  | [], t => (none, [], t)
  | b :: rest, t =>
    if b ≠ marker then scan l atEnd rest t.discard
    else match Frame.decode l (b :: rest) with
      | .frame f rest' => (some f, rest', t.found)
      | .rejected cause => scan l atEnd rest (t.refuse cause).discard
      | .needMore => if atEnd then scan l atEnd rest t.discard else (none, b :: rest, t)

def push (s : Scanner) (b : Bytes) : Scanner := { s with buffer := s.buffer ++ b }

def advance (s : Scanner) (atEnd : Bool) : Option Frame × Scanner :=
  let (f?, rest, t) := scan s.limits atEnd s.buffer s.tally
  (f?, { s with buffer := rest, tally := t })

/-- The next complete frame, if the bytes so far hold one. -/
def next (s : Scanner) : Option Frame × Scanner := s.advance false

/-- The next frame of a stream that has ended; without one, nothing is left in the buffer. -/
def finish (s : Scanner) : Option Frame × Scanner := s.advance true

def clear (s : Scanner) : Scanner := { s with buffer := [] }

/-- All frames that one way of asking yields, up to a number of them. -/
def collect (ask : Scanner → Option Frame × Scanner) : Nat → Scanner → List Frame × Scanner
  | 0, s => ([], s)
  | n + 1, s =>
    match ask s with
    | (none, s') => ([], s')
    | (some f, s') =>
      let (fs, s'') := collect ask n s'
      (f :: fs, s'')

/-- Every complete frame; a frame takes at least one byte, so the buffer bounds their number. -/
def drain (s : Scanner) : List Frame × Scanner := collect next (s.buffer.length + 1) s

def drainEnd (s : Scanner) : List Frame × Scanner := collect finish (s.buffer.length + 1) s

end Scanner

end FrameLink
