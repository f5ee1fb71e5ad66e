import FrameLink.Stream.Sink
import FrameLink.Stream.Source

/-!
A byte stream over datagrams.

Outbound bytes are collected until a flush, which hands them to the socket as one datagram. Inbound
datagrams are read one after the other; an empty one is no end of stream, and neither is a time
without any. What the socket does is scripted.
-/

namespace FrameLink

def maxDatagram : Nat := 65536

/-- The outbound half of a link: what the socket's sends come to, past the script all well. -/
structure DatagramSink where
  outcomes : List (Except IoError Unit) := []
  isClosed : Bool := false
  pending : Bytes := []
  /-- Every datagram that was handed to the socket, and what came of it. -/
  handed : List (Bytes × Except IoError Unit) := []

namespace DatagramSink

def closedError : IoError := ⟨.brokenPipe, "udp link closed"⟩

def tooLargeError : IoError := ⟨.invalidInput, "datagram exceeds maximum size"⟩

def close (s : DatagramSink) : DatagramSink := { s with isClosed := true }

/-- Collects bytes: all of them, or none if they would not fit into a datagram. -/
def write (s : DatagramSink) (b : Bytes) : Except IoError Nat × DatagramSink :=
  if s.isClosed then (.error closedError, s)
  else if maxDatagram < s.pending.length + b.length then (.error tooLargeError, s)
  else (.ok b.length, { s with pending := s.pending ++ b })

/-- The outcome of the next send of the socket, and the script after it. -/
def nextOutcome (s : DatagramSink) : Except IoError Unit × List (Except IoError Unit) :=
  match s.outcomes with
  | [] => (.ok (), [])
  | outcome :: rest => (outcome, rest)

/-- Hands the collected bytes to the socket; they are gone whatever comes of it. -/
def handOver (s : DatagramSink) : DatagramSink :=
  { s with
    outcomes := s.nextOutcome.2
    pending := []
    handed := s.handed ++ [(s.pending, s.nextOutcome.1)] }

/-- What a flush makes of a send: that nobody listens at the far end is no failure. -/
def forgive : Except IoError Unit → Except IoError Unit
  | .error e => if e.kind = .connectionRefused then .ok () else .error e
  | .ok () => .ok ()

/-- Sends what was collected, if anything, as one datagram. -/
def flush (s : DatagramSink) : Except IoError Unit × DatagramSink :=
  if s.isClosed then (.error closedError, s)
  else if s.pending = [] then (.ok (), s)
  else (forgive s.nextOutcome.1, s.handOver)

instance : ByteSink DatagramSink where
  write := write
  flush := flush
  patience s := s.outcomes.length
  patience_write_le s b := by
    unfold write
    split
    · exact Nat.le_refl _
    · split <;> exact Nat.le_refl _
  patience_write_lt s b e h hi := by
    unfold write at h
    split at h
    · simp only [Except.error.injEq] at h
      subst h
      simp [closedError] at hi
    · split at h
      · simp only [Except.error.injEq] at h
        subst h
        simp [tooLargeError] at hi
      · simp at h
  patience_flush_lt s e h hi := by
    unfold flush at h ⊢
    split at h
    · simp only [Except.error.injEq] at h
      subst h
      simp [closedError] at hi
    · split at h
      · simp at h
      · rename_i hc hp
        simp only [hc, hp, if_false, Bool.false_eq_true, handOver, nextOutcome] at h ⊢
        split at h
        · simp [forgive] at h
        · rename_i heq
          simp [heq]

end DatagramSink

/-- What befalls a socket that is waited on for a datagram. -/
inductive SocketEvent where
  | datagram (b : Bytes)
  | failure (e : IoError)
  | close
  deriving DecidableEq

/-- The inbound half of a link; past its script nothing arrives any more. -/
structure DatagramSource where
  events : List SocketEvent := []
  isClosed : Bool := false
  held : Bytes := []
  deriving DecidableEq

namespace DatagramSource

def closedError : IoError := ⟨.connectionAborted, "udp link closed"⟩

def close (s : DatagramSource) : DatagramSource := { s with isClosed := true }

/-- Failures that waiting for a datagram outlasts: a poll without result, or an absent far end. -/
def isPassing (e : IoError) : Bool :=
  e.kind = .wouldBlock || e.kind = .timedOut || e.kind = .interrupted ||
    e.kind = .connectionRefused

/--
Waits for a datagram that is not empty. `isClosed` is looked at before each wait, so a link closed
during one still takes what that wait brings.
-/
def wait (isClosed : Bool) : List SocketEvent → ReadResult × DatagramSource
  | [] => if isClosed then (.failed closedError, ⟨[], true, []⟩) else (.blocked, ⟨[], false, []⟩)
  | .close :: rest => wait true rest
  | .datagram [] :: rest =>
    if isClosed then (.failed closedError, ⟨rest, true, []⟩) else wait false rest
  | .datagram (x :: xs) :: rest => (.bytes (x :: xs), ⟨rest, isClosed, x :: xs⟩)
  | .failure e :: rest =>
    if isPassing e then
      if isClosed then (.failed closedError, ⟨rest, true, []⟩) else wait false rest
    else (.failed e, ⟨rest, isClosed, []⟩)

/-- Reads at most `n` bytes of the datagram at hand. -/
def serve (n : Nat) (s : DatagramSource) : ReadResult × DatagramSource :=
  (.bytes (s.held.take n), { s with held := s.held.drop n })

def read (n : Nat) (s : DatagramSource) : ReadResult × DatagramSource :=
  if n = 0 then (.bytes [], s)
  else if s.held ≠ [] then serve n s
  else if s.isClosed then (.failed closedError, s)
  else
    match wait false s.events with
    | (.bytes _, s) => serve n s
    | other => other

end DatagramSource

end FrameLink
