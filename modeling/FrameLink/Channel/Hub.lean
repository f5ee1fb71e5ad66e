import FrameLink.Channel.Receive

/-!
Several channels side by side, which may relay to one another, and the log of what happens on all
of them.

`settle` lets the receive threads go on until each waits for bytes or has ended: this is the state
in which the channels are looked at. `proceed` stops at a delay as well, which someone has to wait for.
-/

namespace FrameLink

structure Hub where
  channels : List Channel := []
  log : List Event := []

namespace Hub

/-- Takes the events a channel has noted over into the log. -/
def collect (h : Hub) (i : Nat) (c : Channel) : Hub :=
  { channels := h.channels.set i { c with trace := [] }, log := h.log ++ c.trace }

/-- Acts on a channel; without such a channel, nothing happens. -/
def act {α : Type} (h : Hub) (i : Nat) (f : Channel → α × Channel) : Option α × Hub :=
  match h.channels[i]? with
  | some c => let (a, c) := f c; (some a, h.collect i c)
  | none => (none, h)

def update (h : Hub) (i : Nat) (f : Channel → Channel) : Hub :=
  (h.act i fun c => ((), f c)).2

def send (h : Hub) (i : Nat) (f : Frame) : Except ChannelError Unit × Hub :=
  match h.act i (·.send f) with
  | (some r, h) => (r, h)
  | (none, h) => (.error .notConnected, h)

def relay (h : Hub) (i : Nat) (f : Frame) : Relay → Hub
  | .accept => h.update i fun c => (c.note (.relayed f.kind f.payload)).countRelayed (.ok ())
  | .refuse e => h.update i fun c => (c.note (.relayed f.kind f.payload)).countRelayed (.error e)
  | .panic => h.update i fun c => (c.note (.relayed f.kind f.payload)).abandon
  | .channel j =>
    let (r, h) := h.send j f
    h.update i (·.countRelayed r)

/-- Passes a received frame on, by the registry as it is at that moment. -/
def deliver (h : Hub) (i : Nat) (f : Frame) : Hub :=
  let h := h.update i (·.receive f)
  match h.channels[i]? with
  | none => h
  | some c =>
    match c.registry.route f.kind with
    | .handler handler => h.update i (·.handle handler f)
    | .relay r => h.relay i f r
    | .drop => h.update i fun c => c.count fun k => { k with dropped := k.dropped + 1 }

/-- One turn of a channel's receive thread; none if it rests. -/
def step (h : Hub) (i : Nat) : Bool × Hub :=
  match h.act i (·.turn) with
  | (some (.heard f), h) => (true, h.deliver i f)
  | (some .moved, h) => (true, h)
  | (_, h) => (false, h)

/-- Turns of one thread until it rests or a condition holds, at most as many as the fuel allows. -/
def runUntil (stop : Hub → Bool) (i : Nat) : Nat → Hub → Hub
  | 0, h => h
  | fuel + 1, h =>
    if stop h then h else
    match h.step i with
    | (true, h) => runUntil stop i fuel h
    | (false, h) => h

/--
A bound on the turns a channel's thread can take before it rests: each turn uses up a queued item or
byte, a scripted attempt to connect, or one of a few changes of place between them.
-/
def patience (c : Channel) : Nat :=
  let queued := c.transport.links.foldr (fun l n => l.inbound.weight + n) 0
  let held := match c.receiver with
    | .reading _ scanner _ => scanner.buffer.length
    | _ => 0
  (queued + held + 2) * (c.transport.connects.length + 4)

def settle (h : Hub) (i : Nat) : Hub :=
  match h.channels[i]? with
  | some c => runUntil (fun _ => false) i (patience c) h
  | none => h

/-- Lets one thread after the other go on until it rests. -/
def settleEach (h : Hub) : Hub := (List.range h.channels.length).foldl settle h

/--
Lets all threads go on until they rest, the one of channel `i` first. A relay may wake the thread of
a channel whose turn is over, so there is a round for each channel and one more.
-/
def settleAll (h : Hub) (i : Nat) : Hub :=
  (h.channels.length + 1).repeat settleEach (h.settle i)

def isClosed (h : Hub) (i : Nat) : Bool :=
  (h.channels[i]?).all fun c => c.transport.current.isNone

/-- Lets the thread of a channel go on until no link is open; true if that comes about. -/
def awaitClosed (h : Hub) (i : Nat) : Bool × Hub :=
  match h.channels[i]? with
  | some c =>
    let h := runUntil (·.isClosed i) i (patience c) h
    (h.isClosed i, h)
  | none => (true, h)

def hasEnded (h : Hub) (i : Nat) : Bool :=
  (h.channels[i]?).all fun c => c.receiver = .ended

/-- The thread of a channel lets a delay go by: an attempt to reconnect is left, and it comes next. -/
def isWaiting (h : Hub) (i : Nat) : Bool :=
  (h.channels[i]?).any fun c =>
    match c.receiver with
    | .waiting attempts => !c.config.isExhausted attempts
    | _ => false

/-- Lets the thread of a channel go on until it rests or a delay lies before its next turn. -/
def proceed (h : Hub) (i : Nat) : Hub :=
  match h.channels[i]? with
  | some c => runUntil (·.isWaiting i) i (patience c) h
  | none => h

/--
Stops a channel: halts it, closes its link and joins the receive thread. None if the thread never
ends, because a handler has connected the channel again.
-/
def terminate (h : Hub) (i : Nat) : Option Hub :=
  let h := h.update i (·.beginTerminate)
  let joined :=
    if (h.channels[i]?).any (·.joinable) then
      let h := h.settle i
      if h.hasEnded i then some h else none
    else some h
  joined.map fun h => h.update i (·.endTerminate)

/-- Gives a channel up: it is stopped, unless it is down and has no thread. -/
def drop (h : Hub) (i : Nat) : Option Hub :=
  if (h.channels[i]?).any fun c => c.receiving || c.state != .disconnected then h.terminate i
  else some h

def takeLog (h : Hub) : List Event × Hub := (h.log, { h with log := [] })

end Hub

end FrameLink
