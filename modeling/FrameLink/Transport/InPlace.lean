import FrameLink.Frame.InPlace
import FrameLink.Transport.Datagram

/-!
Datagrams read by way of a buffer.

A reader has one buffer for all datagrams, as long as the longest. The socket receives into it from its
front on, and reads are served from a place in it that moves on. Whether the link is closed is looked at
before each receive, not during one. To reach for bytes that the buffer does not have is a panic, and
then there is no answer at all.
-/

namespace FrameLink

namespace SocketEvent

/-- What a receive comes to that brought nothing in time. -/
def idlePoll : IoError := ⟨.wouldBlock, "no datagram in time"⟩

/--
What the next receive comes to, whether the link is closed by then, and what is left of the script. Past
the script nothing arrives: an open link is waited on for ever, on a closed one the wait runs out.
-/
def next (isClosed : Bool) :
    List SocketEvent → Option (Except IoError Bytes) × Bool × List SocketEvent
  | [] => (if isClosed then some (.error idlePoll) else none, isClosed, [])
  | .close :: rest => next true rest
  | .datagram b :: rest => (some (.ok b), isClosed, rest)
  | .failure e :: rest => (some (.error e), isClosed, rest)

theorem length_next_le (isClosed : Bool) (events : List SocketEvent) :
    (next isClosed events).2.2.length ≤ events.length := by
  induction events generalizing isClosed with
  | nil => exact Nat.le_refl _
  | cons event rest ih =>
    cases event with
    | close => exact Nat.le_succ_of_le (ih true)
    | datagram b => exact Nat.le_succ _
    | failure e => exact Nat.le_succ _

/-- On an open link a receive that ends takes something off the script. -/
theorem length_next_lt {events : List SocketEvent} {r : Except IoError Bytes}
    (h : (next false events).1 = some r) : (next false events).2.2.length < events.length := by
  cases events with
  | nil => simp [next] at h
  | cons event rest =>
    cases event with
    | close => exact Nat.lt_succ_of_le (length_next_le true rest)
    | datagram b => exact Nat.lt_succ_self _
    | failure e => exact Nat.lt_succ_self _

end SocketEvent

/-- The inbound half of a link, with the buffer that its datagrams are received into. -/
structure BufferedSource where
  events : List SocketEvent := []
  isClosed : Bool := false
  buffer : Bytes := List.replicate maxDatagram 0
  /-- How many bytes the datagram at hand has. -/
  length : Nat := 0
  /-- How many of them were read. -/
  place : Nat := 0

namespace BufferedSource

open SocketEvent in
/-- Receives a datagram into the buffer, from its front on; bytes that it has no room for are lost. -/
def receive (s : BufferedSource) : Option (Except IoError Nat) × BufferedSource :=
  match next s.isClosed s.events with
  | (some (.ok b), isClosed, events) =>
    (some (.ok (min b.length s.buffer.length)), { s with
      events, isClosed, buffer := b.take s.buffer.length ++ s.buffer.drop b.length })
  | (some (.error e), isClosed, events) => (some (.error e), { s with events, isClosed })
  | (none, isClosed, events) => (none, { s with events, isClosed })

open SocketEvent in
theorem length_receive_lt {s : BufferedSource} {r : Except IoError Nat} (hopen : s.isClosed = false)
    (h : s.receive.1 = some r) : s.receive.2.events.length < s.events.length := by
  have hnext : ∀ r, (next false s.events).1 = some r → _ := fun _ => length_next_lt
  unfold receive at h ⊢
  rw [hopen] at h ⊢
  split at h <;> simp_all

/-- Receives until there is something to read, or tells why there will not be. -/
def fill (s : BufferedSource) : Option ReadResult × BufferedSource :=
  if s.place < s.length then (none, s)
  else if _hc : s.isClosed then (some (.failed DatagramSource.closedError), s)
  else
    match _h : s.receive.1 with
    | some (.ok n) => { s.receive.2 with length := n, place := 0 }.fill
    | some (.error e) =>
      if DatagramSource.isPassing e then s.receive.2.fill else (some (.failed e), s.receive.2)
    | none => (some .blocked, s.receive.2)
termination_by s.events.length
decreasing_by
  · exact length_receive_lt (eq_false_of_ne_true _hc) _h
  · exact length_receive_lt (eq_false_of_ne_true _hc) _h

/-- Reads at most `n` bytes of the datagram at hand, or else of the next that has any. -/
def read (n : Nat) (s : BufferedSource) : Option (ReadResult × BufferedSource) := do
  if n = 0 then return (.bytes [], s)
  match s.fill with
  | (some result, s) => return (result, s)
  | (none, s) =>
    let n := min (s.length - s.place) n
    let (served, _) ← Buffer.splitTo (← Buffer.advance s.buffer s.place) n
    return (.bytes served, { s with place := s.place + n })

def close (s : BufferedSource) : BufferedSource := { s with isClosed := true }

end BufferedSource

/-- What is done to a link by those who read from it, and by those who close it. -/
inductive LinkRequest where
  | read (n : Nat)
  | close
  deriving DecidableEq

namespace BufferedSource

/-- Does one request after the other; each read has its own result. -/
def serve (s : BufferedSource) : List LinkRequest → Option (List ReadResult × BufferedSource)
  | [] => some ([], s)
  | .close :: rest => s.close.serve rest
  | .read n :: rest => do
    let (result, s) ← s.read n
    let (results, s) ← s.serve rest
    return (result :: results, s)

end BufferedSource

end FrameLink
