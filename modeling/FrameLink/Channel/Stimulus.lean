import FrameLink.Channel.Hub

/-!
What goes on beside the calls on a channel: the far end sends or stops, reading fails, the receive
thread takes a turn.
-/

namespace FrameLink

inductive Stimulus where
  | feed (b : Bytes)
  | endInput
  | failRead (e : IoError)
  | turn

namespace Hub

def onTransport (h : Hub) (i : Nat) (f : Transport → Transport) : Hub :=
  h.update i fun c => { c with transport := f c.transport }

def meet (i : Nat) (h : Hub) : Stimulus → Hub
  | .feed b => h.onTransport i (·.feed b)
  | .endInput => h.onTransport i (·.endInput)
  | .failRead e => h.onTransport i (·.failRead e)
  | .turn => (h.step i).2

def undergo (h : Hub) (i : Nat) (stimuli : List Stimulus) : Hub := stimuli.foldl (meet i) h

/-- How channel `i` calls its far end. -/
def peer (h : Hub) (i : Nat) : String := (h.channels[i]?).elim "" (·.transport.describe)

end Hub

end FrameLink
