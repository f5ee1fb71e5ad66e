import FrameLink.Kind
import FrameLink.IoError

/-!
Why bytes are not a frame, and why a frame does not get across.
-/

namespace FrameLink

/-- Why the bytes at the front of a buffer cannot begin a frame. -/
inductive Rejection where
  | invalidMarker
  | invalidKind (kind : Kind)
  | invalidLength (size max : Nat)
  | checksumMismatch (kind : Kind) (expected received : UInt16)
  deriving DecidableEq, Repr

inductive FrameError where
  | rejected (cause : Rejection)
  | payloadTooLarge (size max : Nat)
  | staleChecksum (kind : Kind)
  | io (cause : IoError)
  | connectionClosed
  deriving DecidableEq, Repr

namespace Rejection

def message : Rejection → String
  | .invalidMarker => "invalid frame marker (expected 0xFF 0xFF)"
  | .invalidKind k => s!"invalid message kind {Hex.byte k}"
  | .invalidLength size max => s!"invalid payload length ({size} bytes, max {max})"
  | .checksumMismatch k expected received =>
    s!"checksum mismatch on kind {Hex.byte k} (expected {Hex.word expected}, got {Hex.word received})"

end Rejection

namespace FrameError

def message : FrameError → String
  | .rejected cause => cause.message
  | .payloadTooLarge size max => s!"payload too large ({size} bytes, max {max})"
  | .staleChecksum k => s!"stale checksum on kind {Hex.byte k} (call calc_checksum before sending)"
  | .io cause => s!"frame I/O error: {cause.text}"
  | .connectionClosed => "connection closed"

/-- A reader can go on past bytes that are no frame, and past nothing else. -/
def isRecoverable : FrameError → Bool
  | .rejected _ => true
  | _ => false

end FrameError

end FrameLink
