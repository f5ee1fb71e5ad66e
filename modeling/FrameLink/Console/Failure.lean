import FrameLink.Channel.Error
import FrameLink.Text.Duration
import FrameLink.Text.HexDump

/-!
Exit codes, and which failure leads to which.

The code tells causes apart: what the user wrote, data that is refused, a link that fails, a time that
runs out. Layers that only pass a failure on do not change its code, and their wording is left out.
-/

namespace FrameLink.Console

namespace ExitCode

def success : Nat := 0
def transport : Nat := 3
def invalidData : Nat := 60
def usage : Nat := 64
def timeout : Nat := 124
def fault : Nat := 125

end ExitCode

/-- Why a command does not succeed: its exit code, and the text shown. -/
structure Failure where
  code : Nat
  message : String
  deriving DecidableEq, Repr

namespace Failure

def inContext (code : Nat) (context text : String) : Failure := ⟨code, s!"{context}: {text}"⟩

/-- The exit code of a failed stream or socket. -/
def ioCode : IoKind → Nat
  | .timedOut | .wouldBlock => ExitCode.timeout
  | .connectionRefused | .connectionReset | .connectionAborted | .brokenPipe | .notConnected
  | .addrInUse | .addrNotAvailable => ExitCode.transport
  | _ => ExitCode.fault

def ofIo (context : String) (e : IoError) : Failure := inContext (ioCode e.kind) context e.text

def ofTransport (context : String) : TransportError → Failure
  | .bind _ source | .connect _ source | .io source => ofIo context source
  | e => inContext ExitCode.transport context e.message

def ofFrame (context : String) : FrameError → Failure
  | .io source => ofIo context source
  | .connectionClosed => inContext ExitCode.transport context FrameError.connectionClosed.message
  | .payloadTooLarge size max =>
    inContext ExitCode.invalidData context (FrameError.payloadTooLarge size max).message
  | .staleChecksum kind =>
    inContext ExitCode.invalidData context (FrameError.staleChecksum kind).message
  | .rejected cause => inContext ExitCode.fault context cause.message

def ofMessage (context : String) : MessageError → Failure
  | .frame cause => ofFrame context cause
  | e => inContext ExitCode.invalidData context e.message

def ofChannel (context : String) : ChannelError → Failure
  | .transport cause => ofTransport context cause
  | .frame cause | .sendFailed cause => ofFrame context cause
  | .message cause => ofMessage context cause
  | .notConnected => inContext ExitCode.transport context ChannelError.notConnected.text
  | .halted => inContext ExitCode.transport context ChannelError.halted.text
  | .spawn cause => inContext ExitCode.fault context (ChannelError.spawn cause).text

def ofDuration (e : DurationError) : Failure := ⟨ExitCode.usage, e.message⟩

def ofHexDump (e : HexDumpError) : Failure := ⟨ExitCode.usage, e.message⟩

end Failure

end FrameLink.Console
