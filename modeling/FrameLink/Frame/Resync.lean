import FrameLink.Frame.InPlace
import FrameLink.Frame.Scanner

/-!
Finding frames in a buffer in place.

Both loops drop bytes off the front of the buffer as they go, and count them. To drop more bytes than
there are is a panic. A pass that panics has no outcome, and a loop that is never left has no answer.
-/

namespace FrameLink.Scanner

/-- Drops bytes off the front of the buffer and counts them; none if there are fewer. -/
def discard (s : Scanner) (n : Nat) : Option Scanner := do
  let rest ← Buffer.advance s.buffer n
  return { s with
    buffer := rest
    tally := { s.tally with discarded := s.tally.discarded + n } }

/-- Discards what stands before the first marker, or everything if there is none. -/
def skipToMarker (s : Scanner) : Option Scanner :=
  let skip := s.buffer.findIdx (· == marker)
  if 0 < skip then s.discard skip else some s

/-- Counts an error by its cause, and discards the byte at the front. -/
def reject (s : Scanner) : FrameError → Option Scanner
  | .rejected cause => { s with tally := s.tally.refuse cause }.discard 1
  | _ => s.discard 1

/-- What a pass of a loop comes to: the loop is left with an answer, or goes on. -/
inductive Pass where
  | answer (f? : Option Frame) (s : Scanner)
  | again (s : Scanner)
  deriving DecidableEq

/-- Looks at what begins with the first marker, and goes on behind it if that is no frame. -/
def seekPass (s : Scanner) : Option Pass := do
  let s ← s.skipToMarker
  let (answer, left) ← Frame.takeFrom s.limits s.buffer
  let s := { s with buffer := left }
  match answer with
  | .ok (some f) => return .answer (some f) { s with tally := s.tally.found }
  | .ok none => return .answer none s
  | .error e => return .again (← s.reject e)

/-- Pass after pass, until the loop is left with an answer. -/
inductive Ends (pass : Scanner → Pass → Prop) : Scanner → Option Frame × Scanner → Prop where
  | answer {s s' : Scanner} {f? : Option Frame} (h : pass s (.answer f? s')) :
    Ends pass s (f?, s')
  | again {s s' : Scanner} {a : Option Frame × Scanner} (h : pass s (.again s'))
      (rest : Ends pass s' a) : Ends pass s a

/-- Looking for the next complete frame ends with this answer. -/
def Seeks : Scanner → Option Frame × Scanner → Prop := Ends fun s p => s.seekPass = some p

/-- Looks for a frame in a stream that has ended: where one could still begin that is given up, and it
is looked for one byte further on. -/
inductive EndPass : Scanner → Pass → Prop where
  | found {s s' : Scanner} {f : Frame} (h : s.Seeks (some f, s')) :
    EndPass s (.answer (some f) s')
  | emptied {s s' : Scanner} (h : s.Seeks (none, s')) (hb : s'.buffer.isEmpty) :
    EndPass s (.answer none s')
  | givenUp {s s' s'' : Scanner} (h : s.Seeks (none, s')) (hb : ¬ s'.buffer.isEmpty)
      (hd : s'.discard 1 = some s'') : EndPass s (.again s'')

/-- Looking for the next frame of a stream that has ended ends with this answer. -/
def SeeksToEnd : Scanner → Option Frame × Scanner → Prop := Ends EndPass

end FrameLink.Scanner
