import FrameLink.Channel.Basic

/-!
The receive thread.

It reads the current link frame by frame. When the link is lost it takes the link that is waiting for
it; failing that it closes what is open and tries to reconnect, each attempt after a delay, until
one succeeds, the attempts are used up or the channel is halted.
-/

namespace FrameLink

inductive Turn where
  /-- There is no thread, or it waits for bytes. -/
  | resting
  | moved
  | heard (f : Frame)
  deriving DecidableEq

inductive Ending where
  | returned
  | panicked
  deriving DecidableEq

namespace Channel

/-- Brings the counters up to a scanner's tally, of which `seen` is already in them. -/
def absorb (c : Channel) (seen tally : ScanTally) : Channel :=
  let errors (t : ScanTally) := t.invalidMarkers + t.invalidKinds + t.invalidLengths
  c.count fun k => { k with
    checksumMismatches := k.checksumMismatches + (tally.checksumMismatches - seen.checksumMismatches)
    framingErrors := k.framingErrors + (errors tally - errors seen)
    discardedBytes := k.discardedBytes + (tally.discarded - seen.discarded) }

/-- The thread ends, unless a fresh link is waiting and the channel is not halted. -/
def retire (c : Channel) : Channel :=
  match c.halted, c.pending with
  | false, some n => c.dropPending.listen n
  | _, _ =>
    let c := { c.dropPending with receiving := false, receiver := .ended }
    if c.state = .halting then c else c.setState .disconnected

/-- The waiting link takes the place of the lost one; failing that the channel goes down. -/
def takeOver (c : Channel) : Channel :=
  match c.pending with
  | some n => c.dropPending.listen n
  | none =>
    { c.closeLink.dropWriter.setState .disconnected with receiver := .waiting 0 }

/-- The link is lost. -/
def recover (c : Channel) : Channel := if c.halted then c.retire else c.takeOver

/-- The attempt to reconnect after the given number of them, unless a link is waiting by now. -/
def attempt (c : Channel) (attempts : Nat) : Channel :=
  match c.pending with
  | some n => c.dropPending.listen n
  | none =>
    match (c.setState .connecting).openLink with
    | (.ok n, c) => ((c.install n).setState .connected).listen n
    | (.error _, c) => { c.setState .disconnected with receiver := .waiting (attempts + 1) }

def countAttempt (c : Channel) : Channel :=
  c.count fun k => { k with reconnectAttempts := k.reconnectAttempts + 1 }

/-- The delay is over: one attempt to reconnect, if one is left. -/
def retry (c : Channel) (attempts : Nat) : Channel :=
  if c.config.isExhausted attempts || c.halted then c.retire else c.countAttempt.attempt attempts

/-- The thread reads on, and brings the counters up to date unless it is left waiting for bytes. -/
def readOn (c : Channel) (n : Nat) (scanner : Scanner) (seen : ScanTally) : ReadOutcome × Channel :=
  let (outcome, r) := Reader.readFrame ⟨scanner, (c.transport.link n).inbound⟩
  let c := { c with transport := c.transport.onLink n fun l => { l with inbound := r.source } }
  match outcome with
  | .blocked => (outcome, { c with receiver := .reading n r.scanner seen })
  | _ => (outcome, { c.absorb seen r.scanner.tally with
      receiver := .reading n r.scanner r.scanner.tally })

def turn (c : Channel) : Turn × Channel :=
  match c.receiver with
  | .ended => (.resting, c)
  | .waiting attempts => (.moved, c.retry attempts)
  | .reading n scanner seen =>
    match c.readOn n scanner seen with
    | (.blocked, c) => (.resting, c)
    | (.frame f, c) => (.heard f, c)
    | (.failed _, c) => (.moved, c.recover)

/-- The thread is unwound by a panic: it ends, and the link with it. -/
def abandon (c : Channel) : Channel :=
  let c := { c.dropPending with receiving := false, receiver := .ended }
  c.closeLink.dropWriter.setState .disconnected

def perform (c : Channel) : Call → Reply × Channel
  | .connect => let (r, c) := c.connect; (.ofExcept r, c)
  | .disconnect => (.done, c.disconnect)
  | .terminate => (.done, c.terminateHere)
  | .send f => let (r, c) := c.send f; (.ofExcept r, c)
  | .last => (.frame c.lastReceived, c)
  | .register kind h => let (b, c) := c.register kind h; (.flag b, c)
  | .unregister kind => let (b, c) := c.unregister kind; (.flag b, c)
  | .relay r => (.done, c.setRelay r)

def run (c : Channel) : Script → Ending × Channel
  | .done => (.returned, c)
  | .panic => (.panicked, c)
  | .note e rest => (c.note e).run rest
  | .call call next => (c.perform call).2.run (next (c.perform call).1)

/-- Hands a frame to its handler; a panic stops at the handler. -/
def handle (c : Channel) (h : Handler) (f : Frame) : Channel :=
  match h.answer f with
  | .error _ => c.count fun k => { k with decodeFailures := k.decodeFailures + 1 }
  | .ok script =>
    match c.run script with
    | (.returned, c) => c.count fun k => { k with dispatched := k.dispatched + 1 }
    | (.panicked, c) => c.count fun k => { k with handlerPanics := k.handlerPanics + 1 }

def receive (c : Channel) (f : Frame) : Channel :=
  { c.count fun k => { k with framesReceived := k.framesReceived + 1 } with
    lastReceived := some f }

def countRelayed (c : Channel) : Except ChannelError Unit → Channel
  | .ok () => c.count fun k => { k with relayed := k.relayed + 1 }
  | .error _ => c.count fun k => { k with relayFailures := k.relayFailures + 1 }

end Channel

end FrameLink
