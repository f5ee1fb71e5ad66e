import FrameLink.IoError

/-!
Why a transport does not get a link.
-/

namespace FrameLink

inductive TransportError where
  | resolve (addr : String)
  | connect (addr : String) (source : IoError)
  | bind (addr : String) (source : IoError)
  | io (source : IoError)
  | closed
  deriving DecidableEq, Repr

def TransportError.message : TransportError → String
  | .resolve addr => s!"address {addr} did not resolve"
  | .connect addr source => s!"failed to connect to {addr}: {source.text}"
  | .bind addr source => s!"failed to bind {addr}: {source.text}"
  | .io source => s!"transport I/O error: {source.text}"
  | .closed => "transport closed"

end FrameLink
