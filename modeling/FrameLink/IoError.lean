/-!
Failures of the streams and sockets below a link.
-/

namespace FrameLink

inductive IoKind where
  | notFound | permissionDenied | connectionRefused | connectionReset | connectionAborted
  | notConnected | addrInUse | addrNotAvailable | brokenPipe | alreadyExists | wouldBlock
  | invalidInput | invalidData | timedOut | writeZero | interrupted | unexpectedEof
  | networkUnreachable | other
  deriving DecidableEq, Inhabited, Repr

namespace IoKind

def names : List (IoKind × String) :=
  [(.notFound, "NotFound"), (.permissionDenied, "PermissionDenied"),
   (.connectionRefused, "ConnectionRefused"), (.connectionReset, "ConnectionReset"),
   (.connectionAborted, "ConnectionAborted"), (.notConnected, "NotConnected"),
   (.addrInUse, "AddrInUse"), (.addrNotAvailable, "AddrNotAvailable"),
   (.brokenPipe, "BrokenPipe"), (.alreadyExists, "AlreadyExists"), (.wouldBlock, "WouldBlock"),
   (.invalidInput, "InvalidInput"), (.invalidData, "InvalidData"), (.timedOut, "TimedOut"),
   (.writeZero, "WriteZero"), (.interrupted, "Interrupted"), (.unexpectedEof, "UnexpectedEof"),
   (.networkUnreachable, "NetworkUnreachable"), (.other, "Other")]

def name (k : IoKind) : String := (names.lookup k).getD "Other"

def ofName? (s : String) : Option IoKind := (names.find? (·.2 == s)).map (·.1)

end IoKind

/-- A failure of a stream: its kind, and the text shown for it. -/
structure IoError where
  kind : IoKind
  text : String
  deriving DecidableEq, Inhabited, Repr

end FrameLink
