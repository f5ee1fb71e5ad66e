import FrameLink.Proofs.Channel.Wiring

/-!
The runs of a channel.

A step is one section of a call from outside, one section of the receive thread, or one thing the far
end does, in any order. A handler or a relay makes any calls and ends in any way. Calls do not overlap,
except that `terminate`, while it waits for the thread, does not keep a handler from calling. Beside the
channel, a session keeps account of what was sent on each link, what was read from it and what was
delivered.
-/

namespace FrameLink

/-- Where the receive thread is between two of its sections. -/
inductive Stage where
  /-- About to read, or in its delay, or not there. -/
  | idle
  | failed
  /-- It goes on without the link, after it found the channel not halted. -/
  | lost
  /-- Its delay is over, and the attempt after the given number of them is counted. -/
  | attempting (attempts : Nat)
  | leaving
  /-- A frame has come in and was noted. -/
  | passing (f : Frame)
  | handling
  | relaying (f : Frame)

/-- The thread is in code that is not the channel's. -/
def Stage.IsOut : Stage → Prop
  | .handling | .relaying _ => True
  | _ => False

/-- Where the caller from outside is between two sections of a call. -/
inductive Caller where
  | free
  /-- `connect` has cleared the halt. -/
  | connecting
  /-- A write has failed. -/
  | failing
  /-- A write has failed, and the channel is halted for it. -/
  | failed
  /-- `terminate` has halted the channel. -/
  | stopping
  /-- `terminate` has set the state. -/
  | halting
  /-- `terminate` has taken the link down and waits for the thread. -/
  | joining
  /-- `terminate` has taken the link down and has no thread to wait for. -/
  | ending
  deriving DecidableEq

/-- The call has halted the channel and is going to take the link down. -/
def Caller.IsTaking : Caller → Prop
  | .failed | .stopping | .halting => True
  | _ => False

/-- How the reading of a link came to its end. -/
inductive Close where
  /-- A read gave no bytes, and the scanner is empty. -/
  | drained
  | failed (e : IoError)
  /-- The relay panicked over a frame. -/
  | abandoned (f : Frame)

/-- What a failed request for a frame means for the link. -/
def Close.ofError : FrameError → Close
  | .io e => .failed e
  | _ => .drained

/-- What the receive thread did with one link. -/
structure Reading where
  link : Nat
  /-- All bytes read from the link. -/
  bytes : Bytes := []
  /-- A read gave no bytes. -/
  atEnd : Bool := false
  frames : List Frame := []
  ending : Option Close := none

namespace Reading

/-- One more request for a frame reads on. -/
def extend (x : Reading) (r : Reader) : Reading :=
  { x with bytes := x.bytes ++ r.intake, atEnd := x.atEnd || r.hitsEnd }

def deliver (x : Reading) (f : Frame) : Reading := { x with frames := x.frames ++ [f] }

def close (x : Reading) (e : Close) : Reading := { x with ending := some e }

/-- The link that a receive thread begins to read. -/
def ofReceiver : Receiver → Option Reading
  | .reading n _ _ => some { link := n }
  | _ => none

end Reading

/-- A channel in the middle of a run, and what has happened on it. -/
structure Session where
  channel : Channel
  stage : Stage := .idle
  caller : Caller := .free
  /-- The links that were read, in order. -/
  past : List Reading := []
  /-- The link that is being read. -/
  now : Option Reading := none
  /-- All frames delivered, in order. -/
  delivered : List Frame := []
  /-- What the far end sent, and on which link. -/
  sent : List (Nat × Bytes) := []

/-- The calls that are one section, or do not touch the link at all. -/
def Call.IsShort : Call → Prop
  | .connect | .terminate | .send _ => False
  | _ => True

namespace Channel

/-- A frame is passed on: a handler or a relay is entered, or no one takes it. -/
def passOn (c : Channel) (f : Frame) : Stage × Channel :=
  match c.registry.route f.kind with
  | .handler h =>
    match h.answer f with
    | .ok _ => (.handling, c)
    | .error _ => (.idle, c.count fun k => { k with decodeFailures := k.decodeFailures + 1 })
  | .relay _ => (.relaying f, c)
  | .drop => (.idle, c.count fun k => { k with dropped := k.dropped + 1 })

def countHandled (c : Channel) : Ending → Channel
  | .returned => c.count fun k => { k with dispatched := k.dispatched + 1 }
  | .panicked => c.count fun k => { k with handlerPanics := k.handlerPanics + 1 }

end Channel

namespace Session

/-- The request that the thread makes of a link. -/
def reader (s : Session) (n : Nat) (scanner : Scanner) : Reader :=
  ⟨scanner, (s.channel.transport.link n).inbound⟩

/-- The receive thread turns to another link, or to none. -/
def follow (s : Session) (c : Channel) : Session :=
  { s with
    channel := c, past := s.past ++ s.now.toList, now := Reading.ofReceiver c.receiver }

/-- The reading of the link comes to its end. -/
def shut (s : Session) (e : Close) : Session := { s with now := s.now.map (·.close e) }

/-- A call leaves the channel; it may have started a receive thread if there was none. -/
def leave (s : Session) (c : Channel) : Session :=
  if s.channel.receiver = .ended then s.follow c else { s with channel := c }

/-- The bytes go to the open link, if it is not at its end. -/
def hear (s : Session) (b : Bytes) : List (Nat × Bytes) :=
  match s.channel.transport.current with
  | some n => if (s.channel.transport.link n).inbound.isLive then [(n, b)] else []
  | none => []

def feed (s : Session) (b : Bytes) : Session :=
  { s with
    channel := { s.channel with transport := s.channel.transport.feed b }
    sent := s.sent ++ s.hear b }

/-- What is observed of the channel has no bearing on it. -/
def noting (s : Session) (trace : List Event) : Session :=
  { s with channel := { s.channel with trace } }

variable (s : Session)

inductive Calls : Session → Prop where
  | short (c : Call) (short : c.IsShort) (free : s.caller = .free) :
      Calls (s.leave (s.channel.perform c).2)
  /-- A call that a handler or a relay makes. -/
  | callBack (c : Call) (out : s.stage.IsOut) (free : s.caller = .free ∨ s.caller = .joining) :
      Calls (s.leave (s.channel.perform c).2)
  | clearHalt (free : s.caller = .free) :
      Calls { s with channel := s.channel.setHalted false, caller := .connecting }
  | establish (next : s.caller = .connecting) :
      Calls { s.leave s.channel.establish.2 with caller := .free }
  | send (f : Frame) (free : s.caller = .free) (done : ∀ e, (s.channel.write f).1 ≠ .error (.sendFailed e)) :
      Calls { s with channel := (s.channel.write f).2 }
  | sendFails {f e} (free : s.caller = .free) (fails : (s.channel.write f).1 = .error (.sendFailed e)) :
      Calls { s with channel := (s.channel.write f).2, caller := .failing }
  | haltSend (next : s.caller = .failing) :
      Calls { s with channel := s.channel.setHalted true, caller := .failed }
  | dropLink (next : s.caller = .failed) :
      Calls { s with channel := s.channel.disconnect, caller := .free }
  | halt (free : s.caller = .free) :
      Calls { s with channel := s.channel.setHalted true, caller := .stopping }
  | setHalting (next : s.caller = .stopping) :
      Calls { s with channel := s.channel.setState .halting, caller := .halting }
  | takeDown (next : s.caller = .halting) : Calls { s with
      channel := s.channel.takeDown
      caller := if s.channel.joinable then .joining else .ending }
  | joined (next : s.caller = .joining) (ended : s.channel.receiver = .ended) :
      Calls { s with channel := s.channel.endTerminate, caller := .free }
  | unjoined (next : s.caller = .ending) :
      Calls { s with channel := s.channel.endTerminate, caller := .free }

/-- One thing the far end does, or that befalls the open link. -/
inductive Hears : Session → Prop where
  | feed (b : Bytes) : Hears (s.feed b)
  | endInput : Hears { s with
      channel := { s.channel with transport := s.channel.transport.endInput } }
  | failRead (e : IoError) : Hears { s with
      channel := { s.channel with transport := s.channel.transport.failRead e } }

inductive Turns : Session → Prop where
  /-- The thread is left waiting for bytes. -/
  | blocked {n scanner seen c} (idle : s.stage = .idle)
      (reads : s.channel.receiver = .reading n scanner seen)
      (read : s.channel.readOn n scanner seen = (.blocked, c)) : Turns { s with
        channel := c
        now := s.now.map (·.extend (s.reader n scanner)) }
  /-- A frame comes in and is noted. -/
  | heard {n scanner seen c f} (idle : s.stage = .idle)
      (reads : s.channel.receiver = .reading n scanner seen)
      (read : s.channel.readOn n scanner seen = (.frame f, c)) : Turns { s with
        channel := c.receive f
        stage := .passing f
        now := s.now.map fun x => (x.extend (s.reader n scanner)).deliver f
        delivered := s.delivered ++ [f] }
  | passed {f} (noted : s.stage = .passing f) : Turns { s with
        channel := (s.channel.passOn f).2
        stage := (s.channel.passOn f).1 }
  | broken {n scanner seen c e} (idle : s.stage = .idle)
      (reads : s.channel.receiver = .reading n scanner seen)
      (read : s.channel.readOn n scanner seen = (.failed e, c)) : Turns { s with
        channel := c
        stage := .failed
        now := s.now.map fun x => (x.extend (s.reader n scanner)).close (.ofError e) }
  /-- After a failed read the thread looks whether the channel is halted. -/
  | look (failed : s.stage = .failed) :
      Turns { s with stage := if s.channel.halted then .leaving else .lost }
  | takeOver (lost : s.stage = .lost) : Turns { s.follow s.channel.takeOver with stage := .idle }
  /-- The delay is cut short by a halt, or no attempt is left to wait for. -/
  | giveUp {k} (idle : s.stage = .idle) (waits : s.channel.receiver = .waiting k)
      (spent : s.channel.config.isExhausted k = true ∨ s.channel.halted = true) :
      Turns { s with stage := .leaving }
  | delayed {k} (idle : s.stage = .idle) (waits : s.channel.receiver = .waiting k)
      (left : s.channel.config.isExhausted k = false) (free : s.channel.halted = false) :
      Turns { s with channel := s.channel.countAttempt, stage := .attempting k }
  /-- A halt that is set after the thread has looked for the last time leaves the new link to the
  call that has set it. -/
  | attempt {k} (due : s.stage = .attempting k)
      (go : s.channel.pending ≠ none ∨ s.channel.halted = false ∨ s.caller.IsTaking) :
      Turns { s.follow (s.channel.attempt k) with stage := .idle }
  | halted {k} (due : s.stage = .attempting k) (none : s.channel.pending = none)
      (halted : s.channel.halted = true) : Turns { s with stage := .leaving }
  /-- The halt is set while the link is opened, and the thread closes it again. -/
  | aborted {k n c} (due : s.stage = .attempting k) (none : s.channel.pending = none)
      (taking : s.caller.IsTaking)
      (opens : (s.channel.setState .connecting).openLink = (.ok n, c)) :
      Turns { s with channel := c.closeLink, stage := .leaving }
  | retire (leaving : s.stage = .leaving) : Turns { s.follow s.channel.retire with stage := .idle }
  | handled (e : Ending) (out : s.stage = .handling) :
      Turns { s with channel := s.channel.countHandled e, stage := .idle }
  | relayed {f} (r : Except ChannelError Unit) (out : s.stage = .relaying f) :
      Turns { s with channel := s.channel.countRelayed r, stage := .idle }
  /-- The relay panics over a frame, and the thread is unwound. -/
  | abandoned {f} (out : s.stage = .relaying f) :
      Turns { (s.shut (.abandoned f)).follow s.channel.abandon with stage := .idle }

inductive Step (s t : Session) : Prop where
  | call (calls : s.Calls t)
  | far (hears : s.Hears t)
  | turn (turns : s.Turns t)
  /-- Something is noted, or what was noted is taken over into a log. -/
  | noted (trace : List Event) (notes : t = s.noting trace)

inductive Reaches : Session → Prop where
  | refl : Reaches s
  | tail {t u : Session} (run : Reaches t) (step : Step t u) : Reaches u

/-- A new channel, over a transport that has no link yet. If nothing is said of it, a link that is closed
on this side gives nothing more. -/
def start (config : ChannelConfig) (name : String) (connects : List (Except TransportError Unit))
    (writes : List (Except IoError Nat)) (flushes : List (Except IoError Unit))
    (spawns : List (Except IoError Unit)) (leaves : Source → Source := fun _ => {}) : Session :=
  { channel := { config, transport := { name, connects, writes, flushes, leaves }, spawns } }

/-- No call is in progress, and the receive thread waits for bytes with nothing queued, or is not
there. -/
def AtRest : Prop :=
  s.caller = .free ∧ s.stage = .idle ∧ s.channel.turn.1 = .resting

end Session

/-- States with a step from each to the next, up to a point from which there is one more step. -/
lemma exists_steps_succ {α : Type} {step : α → α → Prop} {p : Nat → α} {k : Nat} {u : α}
    (steps : ∀ i < k, step (p i) (p (i + 1))) (last : step (p k) u) :
    ∃ q : Nat → α, (∀ i ≤ k, q i = p i) ∧ q (k + 1) = u ∧ ∀ i < k + 1, step (q i) (q (i + 1)) := by
  refine ⟨fun i => if i ≤ k then p i else u, fun i hi => if_pos hi, if_neg (Nat.not_succ_le_self k),
    fun i hi => ?_⟩
  rcases Nat.lt_or_ge i k with hlt | hge
  · simpa [Nat.le_of_lt hlt, Nat.succ_le_of_lt hlt] using steps i hlt
  · obtain rfl : i = k := by omega
    simpa [Nat.not_succ_le_self] using last

end FrameLink
