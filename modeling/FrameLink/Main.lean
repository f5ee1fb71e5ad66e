import FrameLink.Console.Errand
import FrameLink.Console.Program
import Std.Async.DNS
import Std.Async.Signal
import Std.Async.TCP
import Std.Async.Timer
import Std.Async.UDP

/-!
The program itself: the outer layer that opens sockets, waits and prints.

What is sent, read and tried again is decided by a channel. A step of the channel is taken as if the
system granted everything, and then the system is made to do what the step did. Where it refuses, the
step is taken again with the refusal in the transport's script.
-/

namespace FrameLink.Main

open FrameLink.Console Std.Async Std.Net

/-! ### Failures of the system -/

/-- The failures that the system tells apart by number. -/
def kindsByNumber : List (UInt32 × IoKind) :=
  [(4, .interrupted), (11, .wouldBlock), (22, .invalidInput), (32, .brokenPipe), (98, .addrInUse),
   (99, .addrNotAvailable), (101, .networkUnreachable), (103, .connectionAborted),
   (104, .connectionReset), (107, .notConnected), (110, .timedOut), (111, .connectionRefused)]

/-- The number of a failure and its description; sockets give the number below zero. -/
def describe : IO.Error → Option (UInt32 × String)
  | .resourceVanished code text | .resourceBusy code text | .timeExpired code text
  | .otherError code text | .protocolError code text | .unsupportedOperation code text
  | .noSuchThing _ code text | .invalidArgument _ code text | .permissionDenied _ code text
  | .interrupted _ code text => some (-code, text)
  | _ => none

def failureOf (e : IO.Error) : IoError :=
  match describe e with
  | some (number, text) =>
    ⟨(kindsByNumber.lookup number).getD .other, s!"{text.capitalize} (os error {number})"⟩
  | none => ⟨.other, toString e⟩

/-! ### Links -/

/-- An open link, over whichever carrier. -/
structure Wire where
  send : ByteArray → Async Unit
  /-- What comes from the far end within so many milliseconds, if anything does. -/
  wait : Nat → Async (Option Stimulus)
  close : Async Unit

/-- What comes of waiting, or nothing once the time is over. -/
def within {α : Type} (millis : Nat) (arrival : Selector α) (met : α → Stimulus) :
    Async (Option Stimulus) := do
  let timer ← Selector.sleep (.ofNat millis)
  Selectable.one
    #[.case arrival fun a => pure (some (met a)), .case timer fun _ => pure none]

/-- The address of a host, by its numbers or by its name. -/
def lookUp (addr : Address) : Async SocketAddress := do
  match IPv4Addr.ofString addr.host with
  | some ip => return .v4 ⟨ip, addr.service⟩
  | none =>
    let found ← DNS.getAddrInfo addr.host ""
    match found.toList with
    | .v4 ip :: _ => return .v4 ⟨ip, addr.service⟩
    | .v6 ip :: _ => return .v6 ⟨ip, addr.service⟩
    | [] => throw (.userError s!"address {addr.host} did not resolve")

def openStream (addr : SocketAddress) : Async Wire := do
  let socket ← TCP.Socket.Client.mk
  socket.connect addr
  socket.noDelay
  return {
    send := socket.send
    wait := fun millis => within millis (socket.recvSelector 512) fun b? =>
      b?.elim .endInput fun b => .feed b.toList
    close := socket.shutdown }

def openDatagrams (addr : SocketAddress) : Async Wire := do
  let socket ← UDP.Socket.mk
  socket.bind (.v4 ⟨IPv4Addr.ofParts 0 0 0 0, 0⟩)
  socket.connect addr
  return {
    send := fun b => do
      try socket.send b
      catch e =>
        if let .error _ := DatagramSink.forgive (.error (failureOf e)) then throw e
    wait := fun millis => do
      try
        within millis (socket.recvSelector maxDatagram.toUInt64) fun (b, _) => .feed b.toList
      catch e => if DatagramSource.isPassing (failureOf e) then return none else throw e
    close := pure () }

/-- Opens a link in time, or says why not. -/
def openLink (s : Settings) (timeout : Duration) (addr : String) :
    IO (Except TransportError Wire) := do
  let refusal (reason : IoError) := TransportError.ofRefusal s.carrier.near addr reason
  match Address.ofText addr with
  | .error e => return .error (refusal e)
  | .ok address =>
    let connect : Async (Except IoError Wire) := do
      let target ← lookUp address
      let wire ← match s.carrier with
        | .tcp => openStream target
        | .udp => openDatagrams target
      return .ok wire
    let tooLate : Async (Except IoError Wire) := do
      sleep (.ofNat timeout.millis)
      return .error ⟨.timedOut, "connection timed out"⟩
    try return (← (Async.race connect tooLate).block).mapError refusal
    catch e => return .error (refusal (failureOf e))

/-! ### The channel over its link -/

/-- A channel, by itself in its hub, and the link that the system has open for it. -/
structure Line where
  hub : Hub
  wire : Option Wire := none
  dial : IO (Except TransportError Wire)
  /-- When the next attempt to reconnect is due, in milliseconds. -/
  due : Nat := 0

abbrev LineM := StateT Line IO

/-- Has the system do what an event tells of; if it refuses, the script that says so. -/
def carry : Event → LineM (Option (Transport → Transport))
  | .connected _ _ => do
    match ← (← get).dial with
    | .ok wire =>
      modify ({ · with wire := some wire })
      return none
    | .error e => return some fun t => { t with connects := t.connects ++ [.error e] }
  | .wrote _ _ b => do
    try
      (← get).wire.forM fun wire => (wire.send ⟨b.toArray⟩).block
      return none
    catch e => return some fun t => { t with writes := t.writes ++ [.error (failureOf e)] }
  | .closed _ _ => do
    try (← get).wire.forM (·.close.block) catch _ => pure ()
    modify ({ · with wire := none })
    return none
  | _ => return none

/-- Takes a step from a hub, again after each refusal; gives what was to be observed of it. -/
partial def performFrom {α : Type} (h : Hub) (step : Hub → α × Hub) :
    LineM (α × List Event) := do
  let (a, h') := step h
  let (log, h') := h'.takeLog
  match ← log.findSomeM? carry with
  | none =>
    modify ({ · with hub := h' })
    return (a, log)
  | some refusal => performFrom (h.onTransport 0 refusal) step

/-- Takes a step of the channel, and has the system do the same. -/
def perform {α : Type} (step : Hub → α × Hub) : LineM (α × List Event) := do
  performFrom (← get).hub step

/-- Takes a step and lets the receive thread go on, up to the delay before its next attempt. -/
def proceed (step : Hub → Hub) : LineM (List Event) := do
  let ((), log) ← perform fun h => ((), (step h).proceed 0)
  let now ← IO.monoMsNow
  modify fun l => { l with due := now + (l.hub.channels[0]?.elim 0 (·.config.reconnectDelay)) }
  return log

/-- Lets so many milliseconds go by, or fewer if something happens before. -/
def look (millis : Nat) : LineM (List Event) := do
  let line ← get
  match line.wire with
  | some wire =>
    let met ← try (wire.wait millis).block catch e => pure (some (.failRead (failureOf e)))
    met.elim (pure []) fun stimulus => proceed (·.undergo 0 [stimulus])
  | none =>
    IO.sleep millis.toUInt32
    if line.hub.isWaiting 0 && line.due ≤ (← IO.monoMsNow) then proceed fun h => (h.step 0).2
    else return []

/-- Lets so many milliseconds go by. -/
def pause (millis : Nat) : LineM Unit := do
  let start ← IO.monoMsNow
  let mut now := start
  while now < start + millis do
    discard <| look (start + millis - now)
    now ← IO.monoMsNow

/-! ### Work -/

def peer (s : Settings) (addr : String) : String := s!"{s.carrier.name}://{addr}"

/-- Prints a notice, under the name that the user knows the far end by. -/
def report (s : Settings) (addr : String) (n : Notice) : IO Unit := do
  let time ← Std.Time.Timestamp.now
  let n := { n with peer := peer s addr }
  IO.print (n.render (toString time.toSecondsSinceUnixEpoch.val) s.format)

/-- Sends a frame so many times, and tells each time. -/
def sendCopies (s : Settings) (addr : String) (f : Frame) (interval : Nat) :
    Nat → LineM (Except Failure Unit)
  | 0 => return .ok ()
  | n + 1 => do
    let ((result, notices), _) ← perform fun h =>
      let o := Errand.sendCopies 0 f (fun _ => []) 1 h
      ((o.result, o.notices), o.hub)
    notices.forM fun n => report s addr n
    match result with
    | .error failure => return .error failure
    | .ok () =>
      if n ≠ 0 then pause interval
      sendCopies s addr f interval n

def runErrand (s : Settings) (addr : String) (e : Errand) : LineM (Except Failure Unit) := do
  match e.pause, e.frame with
  | .error failure, _ | _, .error failure => return .error failure
  | .ok interval, .ok f => sendCopies s addr f (interval.elim 0 Duration.millis) e.repeats

/-- The milliseconds between two looks at a quiet channel. -/
def pollInterval : Nat := 100

/-- The frame that an event tells of, if it went to the relay. -/
def relayedFrame? : Event → Option Frame
  | .relayed kind payload => (Frame.make kind payload).toOption
  | _ => none

/-- What the listener makes of the channel when no frame came for so many milliseconds. -/
def quiet (h : Hub) (idle : Nat) : Arrival :=
  h.channels[0]?.elim .stop fun c =>
    .quiet idle (c.state = .connected) c.counters.reconnectAttempts

/-- Listens until there is enough or reason to give up; the last frame came at the time `heard`. -/
partial def listen (s : Settings) (addr : String) (l : Listening) (interrupted : IO Bool)
    (shown heard : Nat) : LineM (Except Failure Unit) := do
  let frames := (← look pollInterval).filterMap relayedFrame?
  let now ← IO.monoMsNow
  let line ← get
  let arrivals :=
    if ← interrupted then [.stop]
    else if frames = [] then [quiet line.hub (now - heard)]
    else frames.map .frame
  let (wanted, standing) := l.run (peer s addr) shown arrivals
  wanted.forM fun f => report s addr ⟨.received, "", f⟩
  match standing with
  | .goesOn =>
    let heard := if frames = [] then heard else now
    listen s addr l interrupted (shown + wanted.length) heard
  | .done => return .ok ()
  | .failed failure => return .error failure

def runListening (s : Settings) (addr : String) (l : Listening) (idleTimeout : Option String) :
    LineM (Except Failure Unit) := do
  match idleTimeout.mapM Duration.ofText with
  | .error e => return .error (.ofDuration e)
  | .ok idleTimeout =>
    let signal ← (← Signal.Waiter.mk .sigint false).wait
    discard <| perform fun h => ((), h.update 0 (·.setRelay (some .accept)))
    let result ← listen s addr { l with idleTimeout } (IO.hasFinished signal) 0 (← IO.monoMsNow)
    discard <| perform fun h => ((), h.update 0 (·.setRelay none))
    return result

/-- Opens the channel for some work, and stops it whatever came of the work. -/
def withChannel (work : LineM (Except Failure Unit)) : LineM (Except Failure Unit) := do
  let (connected?, _) ← perform (·.act 0 (·.connect))
  match connected?.getD (.error .notConnected) with
  | .error cause => return .error (.ofChannel "connect failed" cause)
  | .ok () =>
    let result ← work
    discard <| perform fun h => ((), (h.terminate 0).getD h)
    return result

def carryOut (plan : Plan) : IO Exit := do
  match plan with
  | .finished e => return e
  | .online s timeout addr config w =>
    let transport : Transport := { name := addr, leaves := s.carrier.leaves }
    let line : Line :=
      { hub := { channels := [{ config, transport }] }, dial := openLink s timeout addr }
    let work := match w with
      | .errand e => runErrand s addr e
      | .listen l idleTimeout => runListening s addr l idleTimeout
    match ← (withChannel work).run' line with
    | .ok () => return ⟨ExitCode.success, "", ""⟩
    | .error failure => return .ofFailure failure ""

end FrameLink.Main

open FrameLink.Console in
def main (args : List String) : IO UInt32 := do
  let format := if ← (← IO.getStdout).isTty then Format.table else Format.json
  let environment ← (Flag.shared.filterMap Flag.environmentName?).filterMapM fun name => do
    return (← IO.getEnv name).map fun value => (name, value)
  let exit ← FrameLink.Main.carryOut (Plan.make (environment.lookup ·) format args)
  IO.print exit.output
  IO.eprint exit.errors
  return exit.code.toUInt32
