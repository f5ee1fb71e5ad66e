import FrameLink.Channel.Config
import FrameLink.Channel.Handler
import FrameLink.Transport.Scripted
import FrameLink.Stream.Reader
import FrameLink.Stream.Writer

/-!
A channel: one transport, the link it has open, and the thread that reads from it.

The calls of a channel are composed of short sections, each of which changes one thing; between
them the channel may be seen half way. `halted` is what stops the thread from reconnecting: it is set
by `terminate` and by a failed send, and cleared by `connect`.
-/

namespace FrameLink

/-- Where the receive thread stands. -/
inductive Receiver where
  /-- There is none, or it has ended. -/
  | ended
  /-- It reads a link; `seen` is the part of the scanner's tally already in the counters. -/
  | reading (link : Nat) (scanner : Scanner) (seen : ScanTally)
  /-- It waits before the next attempt to reconnect. -/
  | waiting (attempts : Nat)
  deriving DecidableEq

structure Channel where
  config : ChannelConfig := {}
  transport : Transport
  /-- A link opened while the receive thread was running, waiting to be read by it. -/
  pending : Option Nat := none
  /-- A receive thread owns the inbound side. -/
  receiving : Bool := false
  /-- The link that frames are written to. -/
  writer : Option Nat := none
  state : ChannelState := .disconnected
  halted : Bool := false
  registry : Registry := {}
  lastReceived : Option Frame := none
  /-- The receive thread can still be joined. -/
  joinable : Bool := false
  counters : Counters := {}
  receiver : Receiver := .ended
  /-- How starting a receive thread will come out; when the script is over, it succeeds. -/
  spawns : List (Except IoError Unit) := []
  /-- What was observed since the events were last taken. -/
  trace : List Event := []

namespace Channel

/-! ### Sections -/

def note (c : Channel) (e : Event) : Channel := { c with trace := c.trace ++ [e] }

def setState (c : Channel) (s : ChannelState) : Channel := { c with state := s }

def setHalted (c : Channel) (b : Bool) : Channel := { c with halted := b }

def dropPending (c : Channel) : Channel := { c with pending := none }

def dropWriter (c : Channel) : Channel := { c with writer := none }

def count (c : Channel) (f : Counters → Counters) : Channel := { c with counters := f c.counters }

/-- Notes that the transport's open link is about to be closed. -/
def noteClosing (c : Channel) : Channel :=
  match c.transport.current with
  | some n => c.note (.closed c.transport.name n)
  | none => c

def closeLink (c : Channel) : Channel :=
  let c := c.noteClosing
  { c with transport := c.transport.disconnect }

def openLink (c : Channel) : Except TransportError Nat × Channel :=
  let c := c.noteClosing
  match c.transport.connect with
  | (.ok n, t) => (.ok n, { c with transport := t }.note (.connected t.name n))
  | (.error e, t) => (.error e, { c with transport := t }.note (.refused t.name))

/-- Makes a link the one that frames are written to. -/
def install (c : Channel) (n : Nat) : Channel := { c with writer := some n }

/-- Lets the receive thread read a link from its beginning. -/
def listen (c : Channel) (n : Nat) : Channel :=
  { c with receiver := .reading n { limits := c.config.limits } {} }

def spawn (c : Channel) (n : Nat) : Channel :=
  { c.listen n with receiving := true, joinable := true }

/-- Starts the receive thread on a link; if none is to be had, the link is closed again. -/
def start (c : Channel) (n : Nat) : Except ChannelError Unit × Channel :=
  match c.spawns with
  | [] => (.ok (), c.spawn n)
  | .ok () :: rest => (.ok (), { c with spawns := rest }.spawn n)
  | .error e :: rest =>
    (.error (.spawn e), { c with spawns := rest }.closeLink.dropWriter.setState .disconnected)

/-! ### Calls -/

/-- Opens a link, and starts the receive thread or leaves the link for it to pick up. -/
def establish (c : Channel) : Except ChannelError Unit × Channel :=
  match (c.setState .connecting).openLink with
  | (.error e, c) => (.error (.transport e), c.setState .disconnected)
  | (.ok n, c) =>
    let c := (c.install n).setState .connected
    if c.receiving then (.ok (), { c with pending := some n }) else c.start n

def connect (c : Channel) : Except ChannelError Unit × Channel := (c.setHalted false).establish

/-- Closes the link, and lets go of all that holds it. -/
def takeDown (c : Channel) : Channel := c.dropPending.closeLink.dropWriter

/-- Closes the link; the receive thread notices and reconnects, unless the channel is halted. -/
def disconnect (c : Channel) : Channel := c.takeDown.setState .disconnected

/-- The part of `terminate` before the receive thread is joined. -/
def beginTerminate (c : Channel) : Channel := ((c.setHalted true).setState .halting).takeDown

/-- The part of `terminate` after the receive thread was joined, or was not to be. -/
def endTerminate (c : Channel) : Channel := { c.setState .disconnected with joinable := false }

/-- `terminate` on the receive thread itself, which does not join itself. -/
def terminateHere (c : Channel) : Channel := c.beginTerminate.endTerminate

/-- The channel after its writer's link took bytes. -/
def noteWritten (c : Channel) (n : Nat) (s : Sink) : Channel :=
  { c with
    transport := c.transport.absorb n s
    trace := c.trace ++ s.pieces.map (Event.wrote c.transport.name n) }

/-- Writes and flushes one frame, or refuses it, or fails. -/
def write (c : Channel) (f : Frame) : Except ChannelError Unit × Channel :=
  match c.writer with
  | none => (.error (if c.halted then .halted else .notConnected), c)
  | some n =>
    match c.config.limits.refusal? f with
    | some e => (.error (.frame e), c)
    | none =>
      let (outcome, sink) := Writer.writeFrame c.config.limits (c.transport.sink n) f
      let c := c.noteWritten n sink
      match outcome with
      | .ok () => (.ok (), c.count fun k => { k with framesSent := k.framesSent + 1 })
      | .error e => (.error (.sendFailed e), c)

/-- A failed write: the channel is halted and its link closed. -/
def failSend (c : Channel) : Channel := (c.setHalted true).disconnect

def send (c : Channel) (f : Frame) : Except ChannelError Unit × Channel :=
  match c.write f with
  | (.error (.sendFailed e), c) => (.error (.sendFailed e), c.failSend)
  | result => result

def sendRecord {α : Type} [Record α] (c : Channel) (kind : Kind) (a : α) :
    Except ChannelError Unit × Channel :=
  c.send (Record.toFrame kind a)

def register (c : Channel) (kind : Kind) (h : Handler) : Bool × Channel :=
  let (replaced, registry) := c.registry.register kind h
  (replaced, { c with registry })

def unregister (c : Channel) (kind : Kind) : Bool × Channel :=
  let (removed, registry) := c.registry.unregister kind
  (removed, { c with registry })

def setRelay (c : Channel) (relay : Option Relay) : Channel :=
  { c with registry := { c.registry with relay } }

/-- The channel as diagnostic text shows it. -/
def diagnostic (c : Channel) : String :=
  s!"Transceiver \x7b peer: \"{c.transport.describe}\", state: {c.state.label}, relay: " ++
    s!"{c.registry.relay.isSome} \x7d"

end Channel

end FrameLink
