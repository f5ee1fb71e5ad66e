import FrameLink.Transport.Error
import FrameLink.Stream.Sink
import FrameLink.Stream.Source

/-!
A transport in memory whose answers are scripted.

At most one link is open at a time; opening one closes the one before. Links are numbered in the
order they were opened. A closed link takes nothing more to write. What it still gives to read is up to
the transport: a stream serves what has come in, datagrams the rest of the one at hand, and a transport of
which nothing is said gives nothing more, whatever was still queued.
-/

namespace FrameLink

/-- One connection: what will be read from it, and what was written to it. -/
structure Link where
  inbound : Source := { isLive := true }
  written : Bytes := []
  deriving DecidableEq

/-- The transport of one channel, and the script of how its calls come out. -/
structure Transport where
  name : String
  connects : List (Except TransportError Unit) := []
  writes : List (Except IoError Nat) := []
  flushes : List (Except IoError Unit) := []
  links : List Link := []
  current : Option Nat := none
  /-- What the inbound side of a link still gives once the link is closed on this side. -/
  leaves : Source → Source := fun _ => {}

namespace Transport

def describe (t : Transport) : String := "mem://" ++ t.name

/-- A link by its number; one that was never opened is like a closed one. -/
def link (t : Transport) (n : Nat) : Link := t.links.getD n { inbound := {} }

def onLink (t : Transport) (n : Nat) (f : Link → Link) : Transport :=
  { t with links := t.links.modify n f }

def isOpen (t : Transport) (n : Nat) : Bool := t.current == some n

/-- Closes the open link, if there is one; what is queued on it may be lost. -/
def disconnect (t : Transport) : Transport :=
  match t.current with
  | some n => { t.onLink n fun l => { l with inbound := t.leaves l.inbound } with current := none }
  | none => t

/-- The outcome of the next attempt to connect, and the script after it. -/
def nextConnect (t : Transport) : Except TransportError Unit × Transport :=
  match t.connects with
  | [] => (.ok (), t)
  | outcome :: rest => (outcome, { t with connects := rest })

/-- Opens a new link in place of the open one, if the attempt succeeds; gives its number. -/
def connect (t : Transport) : Except TransportError Nat × Transport :=
  match t.disconnect.nextConnect with
  | (.ok (), t) =>
    (.ok t.links.length, { t with links := t.links ++ [{}], current := some t.links.length })
  | (.error e, t) => (.error e, t)

def sink (t : Transport) (n : Nat) : Sink :=
  { writes := t.writes, flushes := t.flushes, isClosed := !t.isOpen n }

/-- The transport after a sink of one of its links was written to. -/
def absorb (t : Transport) (n : Nat) (s : Sink) : Transport :=
  { t.onLink n fun l => { l with written := l.written ++ s.accepted } with
    writes := s.writes, flushes := s.flushes }

/-- Queues what the far end does on the open link, unless that link is at its end already. -/
def deliver (t : Transport) (item : Inbound) : Transport :=
  match t.current with
  | some n => t.onLink n fun l =>
    if l.inbound.isLive then
      { l with inbound := { l.inbound with script := l.inbound.script ++ [item] } }
    else l
  | none => t

def feed (t : Transport) (b : Bytes) : Transport := if b = [] then t else t.deliver (.data b)

def failRead (t : Transport) (e : IoError) : Transport := t.deliver (.failure e)

/-- The far end of the open link sends nothing any more. -/
def endInput (t : Transport) : Transport :=
  match t.current with
  | some n => t.onLink n fun l => { l with inbound := { l.inbound with isLive := false } }
  | none => t

end Transport

end FrameLink
