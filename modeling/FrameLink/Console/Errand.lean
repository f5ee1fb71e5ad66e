import FrameLink.Console.Failure
import FrameLink.Console.Notice
import FrameLink.Channel.Stimulus

/-!
Commands that send one frame, perhaps several times, and are done.

An errand opens the channel, sends, and stops the channel whatever came of it. The first failure
ends it. Every successful send is noted before the next one.
-/

namespace FrameLink.Console

/-- A request to the vehicle besides commands and gains. -/
inductive Request where
  | switchState (target : UInt8)
  | switchMode (target : UInt8)
  | storeTrim
  | clearTrim
  | shutDown
  | enableSensors
  deriving DecidableEq, Repr

def Request.message : Request → Message
  | .switchState target => .switchState ⟨target⟩
  | .switchMode target => .switchMode ⟨target⟩
  | .storeTrim => .storeTrim
  | .clearTrim => .clearTrim
  | .shutDown => .shutDown
  | .enableSensors => .enableSensors

inductive Errand where
  /-- A setpoint sent a number of times; `interval` is the pause between, as the user wrote it. -/
  | command (setpoint : Command) (repeats : Nat) (interval : String)
  | gains (axis : GainAxis) (gain : Gain)
  | request (r : Request)
  deriving DecidableEq

structure Outcome where
  result : Except Failure Unit
  notices : List Notice
  hub : Hub

namespace Errand

def message : Errand → Message
  | .command setpoint _ _ => .command setpoint
  | .gains axis gain => .gains axis gain
  | .request r => r.message

def repeats : Errand → Nat
  | .command _ n _ => n
  | _ => 1

/-- The pause between sends; only a command has one that can be wrong. -/
def pause : Errand → Except Failure (Option Duration)
  | .command _ _ interval => ((Duration.ofText interval).map some).mapError .ofDuration
  | _ => .ok none

def frame (e : Errand) : Except Failure Frame :=
  e.message.toFrame.mapError (.ofMessage "encode failed")

/--
Sends a frame so many times through channel `i`, until a send fails. `meanwhile n` is what goes on
before the send after which `n` are left.
-/
def sendCopies (i : Nat) (f : Frame) (meanwhile : Nat → List Stimulus) : Nat → Hub → Outcome
  | 0, h => ⟨.ok (), [], h⟩
  | n + 1, h =>
    match (h.undergo i (meanwhile n)).send i f with
    | (.ok (), h) =>
      let rest := sendCopies i f meanwhile n h
      { rest with notices := ⟨.sent, h.peer i, f⟩ :: rest.notices }
    | (.error e, h) => ⟨.error (.ofChannel "send failed" e), [], h⟩

def perform (e : Errand) (i : Nat) (meanwhile : Nat → List Stimulus) (h : Hub) : Outcome :=
  match e.pause with
  | .error failure => ⟨.error failure, [], h⟩
  | .ok _ =>
    match e.frame with
    | .error failure => ⟨.error failure, [], h⟩
    | .ok f => sendCopies i f meanwhile e.repeats h

def run (e : Errand) (i : Nat) (meanwhile : Nat → List Stimulus) (h : Hub) : Outcome :=
  match h.act i (·.connect) with
  | (some (.ok ()), h) =>
    let o := e.perform i meanwhile h
    { o with hub := (o.hub.terminate i).getD o.hub }
  | (some (.error cause), h) => ⟨.error (.ofChannel "connect failed" cause), [], h⟩
  | (none, h) => ⟨.error (.ofChannel "connect failed" .notConnected), [], h⟩

/-- The settings of a channel for an errand: an outage is not worth any attempt to reconnect. -/
def config : ChannelConfig := { maxAttempts := some 0 }

end Errand

end FrameLink.Console
