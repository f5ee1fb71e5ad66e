import FrameLink.Console.Failure
import FrameLink.Console.Notice

/-!
Listening to a channel: the frames that arrive are shown, until enough were shown or it is time to
give up.
-/

namespace FrameLink.Console

structure Listening where
  count : Option Nat := none
  kinds : Option (List Kind) := none
  idleTimeout : Option Duration := none
  maxReconnects : Option Nat := none
  deriving DecidableEq, Repr

/-- What the listener finds each time it looks. -/
inductive Arrival where
  | frame (f : Frame)
  /-- Nothing for so many milliseconds since the last frame, on a channel in a certain state. -/
  | quiet (idle : Nat) (connected : Bool) (attempts : Nat)
  | stop

inductive Standing where
  | goesOn
  | done
  | failed (f : Failure)
  deriving DecidableEq

namespace Listening

def wants (l : Listening) (f : Frame) : Bool := l.kinds.all (·.contains f.kind)

/-- So many shown frames are enough. -/
def isEnough (l : Listening) (shown : Nat) : Bool := l.count.any (· ≤ shown)

/-- Why a quiet channel is given up, if it is: too long a silence comes before a lost link. -/
def giveUp? (l : Listening) (peer : String) (idle : Nat) (connected : Bool) (attempts : Nat) :
    Option Failure :=
  match l.idleTimeout.filter (·.millis ≤ idle) with
  | some limit => some ⟨ExitCode.timeout, s!"no frames received within {limit.text}"⟩
  | none =>
    (l.maxReconnects.filter fun most => !connected && most ≤ attempts).map fun most =>
      ⟨ExitCode.transport, s!"link to {peer} lost after {most} reconnect attempts"⟩

/-- The frames shown for a list of arrivals, after `shown` earlier ones, and how it ends. -/
def run (l : Listening) (peer : String) : Nat → List Arrival → List Frame × Standing
  | _, [] => ([], .goesOn)
  | shown, .frame f :: rest =>
    if l.wants f then
      if l.isEnough (shown + 1) then ([f], .done)
      else
        let (frames, standing) := l.run peer (shown + 1) rest
        (f :: frames, standing)
    else l.run peer shown rest
  | shown, .quiet idle connected attempts :: rest =>
    match l.giveUp? peer idle connected attempts with
    | some failure => ([], .failed failure)
    | none => l.run peer shown rest
  | _, .stop :: _ => ([], .done)

end Listening

end FrameLink.Console
