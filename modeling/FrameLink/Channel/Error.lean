import FrameLink.Message.Error
import FrameLink.Transport.Error

/-!
Why a call on a channel fails.
-/

namespace FrameLink

inductive ChannelError where
  | transport (cause : TransportError)
  | frame (cause : FrameError)
  | message (cause : MessageError)
  | notConnected
  | sendFailed (cause : FrameError)
  | halted
  | spawn (cause : IoError)
  deriving DecidableEq, Repr

def ChannelError.text : ChannelError → String
  | .transport cause => s!"transport error: {cause.message}"
  | .frame cause => s!"frame error: {cause.message}"
  | .message cause => s!"message error: {cause.message}"
  | .notConnected => "channel is not connected"
  | .sendFailed cause => s!"send failed: {cause.message}"
  | .halted => "channel halted"
  | .spawn cause => s!"failed to start receive thread: {cause.text}"

end FrameLink
