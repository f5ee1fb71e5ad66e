import FrameLink.Frame.Error

/-!
Why a payload is not the record it should be.
-/

namespace FrameLink

inductive MessageError where
  | bufferTooShort (need offset size : Nat)
  | sizeMismatch (kind : Kind) (expected actual : Nat)
  | unknownKind (kind : Kind)
  | frame (cause : FrameError)
  deriving DecidableEq, Repr

def MessageError.message : MessageError → String
  | .bufferTooShort need offset size =>
    s!"buffer too short (need {need} bytes at offset {offset}, have {size})"
  | .sizeMismatch k expected actual =>
    s!"payload size mismatch on kind {Hex.byte k} (expected {expected}, got {actual})"
  | .unknownKind k => s!"no record layout for kind {Hex.byte k}"
  | .frame cause => s!"frame error: {cause.message}"

end FrameLink
