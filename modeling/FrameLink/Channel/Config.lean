import FrameLink.Frame.Basic

/-!
Settings, state and counters of a channel.
-/

namespace FrameLink

structure ChannelConfig where
  limits : Limits := {}
  /-- How long to wait before each attempt to reconnect, in milliseconds. -/
  reconnectDelay : Nat := 1000
  /-- How many attempts one outage is worth; without a number, any. -/
  maxAttempts : Option Nat := none
  deriving DecidableEq, Repr

/-- No attempt is left after the given number of them. -/
def ChannelConfig.isExhausted (c : ChannelConfig) (attempts : Nat) : Bool :=
  match c.maxAttempts with
  | some most => most ≤ attempts
  | none => false

inductive ChannelState where
  | disconnected | connecting | connected | halting
  deriving DecidableEq, Repr

namespace ChannelState

def name : ChannelState → String
  | .disconnected => "disconnected"
  | .connecting => "connecting"
  | .connected => "connected"
  | .halting => "halting"

/-- The name with a capital, as diagnostic text shows it. -/
def label : ChannelState → String
  | .disconnected => "Disconnected"
  | .connecting => "Connecting"
  | .connected => "Connected"
  | .halting => "Halting"

end ChannelState

/-- What has happened on a channel, in numbers. -/
structure Counters where
  framesReceived : Nat := 0
  framesSent : Nat := 0
  dispatched : Nat := 0
  relayed : Nat := 0
  dropped : Nat := 0
  decodeFailures : Nat := 0
  handlerPanics : Nat := 0
  relayFailures : Nat := 0
  checksumMismatches : Nat := 0
  framingErrors : Nat := 0
  discardedBytes : Nat := 0
  reconnectAttempts : Nat := 0
  deriving DecidableEq, Repr

def Counters.entries (c : Counters) : List (String × Nat) :=
  [("frames_received", c.framesReceived), ("frames_sent", c.framesSent),
   ("dispatched", c.dispatched), ("relayed", c.relayed), ("dropped", c.dropped),
   ("decode_failures", c.decodeFailures), ("handler_panics", c.handlerPanics),
   ("relay_failures", c.relayFailures), ("checksum_mismatches", c.checksumMismatches),
   ("framing_errors", c.framingErrors), ("discarded_bytes", c.discardedBytes),
   ("reconnect_attempts", c.reconnectAttempts)]

end FrameLink
