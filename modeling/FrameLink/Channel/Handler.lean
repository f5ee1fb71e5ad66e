import FrameLink.Record.Sort
import FrameLink.Channel.Error

/-!
What is done with received frames.

A handler answers a frame with a script: the calls it makes on its own channel, each going on as the
reply to it decides, and whether it returns or panics. A relay takes the frames that no handler is
registered for.
-/

namespace FrameLink

abbrev AnyRecord := (sort : RecordSort) × sort.Carrier

/-- Where frames go that no handler takes. -/
inductive Relay where
  /-- To a consumer that takes them. -/
  | accept
  /-- To a consumer that refuses them. -/
  | refuse (e : ChannelError)
  /-- To a consumer that panics. -/
  | panic
  /-- Out through the channel of a number. -/
  | channel (i : Nat)
  deriving DecidableEq

/-- What a call on a channel comes back with. -/
inductive Reply where
  | done
  | flag (b : Bool)
  | frame (f? : Option Frame)
  | failed (e : ChannelError)
  deriving DecidableEq

def Reply.ofExcept : Except ChannelError Unit → Reply
  | .ok () => .done
  | .error e => .failed e

/-- What can be observed of a channel from outside. -/
inductive Event where
  | connected (peer : String) (link : Nat)
  | refused (peer : String)
  | closed (peer : String) (link : Nat)
  | wrote (peer : String) (link : Nat) (b : Bytes)
  | frame (kind : Kind) (payload : Bytes)
  | message (kind : Kind) (record : AnyRecord)
  | relayed (kind : Kind) (payload : Bytes)
  | replied (call : String) (reply : Reply)

mutual

/-- What a handler does with one frame. -/
inductive Script where
  | done
  | panic
  | note (e : Event) (rest : Script)
  | call (c : Call) (next : Reply → Script)

inductive Call where
  | connect
  | disconnect
  | terminate
  | send (f : Frame)
  | last
  | register (kind : Kind) (h : Handler)
  | unregister (kind : Kind)
  | relay (r : Option Relay)

/-- A handler takes frames as they are, or the records they carry. -/
inductive Handler where
  | raw (run : Frame → Script)
  | typed (sort : RecordSort) (run : sort.Carrier → Script)

end

namespace Handler

/-- What the handler does with a frame; a typed one is not run if the record does not decode. -/
def answer : Handler → Frame → Except MessageError Script
  | .raw run, f => .ok (run f)
  | .typed _ run, f => (Record.ofFrame f).map run

/-- A handler that notes each frame of its kind and goes on with a script. -/
def noting (rest : Script) : Handler :=
  .raw fun f => .note (.frame f.kind f.payload) rest

/-- A handler that notes each record of its kind and goes on with a script. -/
def notingRecords (kind : Kind) (sort : RecordSort) (rest : Script) : Handler :=
  .typed sort fun r => .note (.message kind ⟨sort, r⟩) rest

end Handler

/-- Makes a call and notes the reply under a name. -/
def Script.noteReply (name : String) (c : Call) : Script :=
  .call c fun reply => .note (.replied name reply) .done

structure Registry where
  handlers : List (Kind × Handler) := []
  relay : Option Relay := none

inductive Route where
  | handler (h : Handler)
  | relay (r : Relay)
  | drop

namespace Registry

def has (g : Registry) (kind : Kind) : Bool := g.handlers.any (·.1 == kind)

def without (g : Registry) (kind : Kind) : Registry :=
  { g with handlers := g.handlers.filter (·.1 != kind) }

/-- Sets the handler of a kind; true if it replaces one. -/
def register (g : Registry) (kind : Kind) (h : Handler) : Bool × Registry :=
  (g.has kind, { g.without kind with handlers := (kind, h) :: (g.without kind).handlers })

/-- Removes the handler of a kind; true if there was one. -/
def unregister (g : Registry) (kind : Kind) : Bool × Registry := (g.has kind, g.without kind)

/-- Frames go to the handler of their kind, failing that to the relay. -/
def route (g : Registry) (kind : Kind) : Route :=
  match g.handlers.lookup kind with
  | some h => .handler h
  | none =>
    match g.relay with
    | some r => .relay r
    | none => .drop

theorem route_of_has {g : Registry} {kind : Kind} (h : g.has kind = true) :
    ∃ handler, g.route kind = .handler handler := by
  cases hlookup : g.handlers.lookup kind with
  | some handler => exact ⟨handler, by simp only [route, hlookup]⟩
  | none =>
    obtain ⟨x, hx, heq⟩ := List.any_eq_true.mp h
    have hne := List.lookup_eq_none_iff.mp hlookup x hx
    rw [beq_iff_eq] at heq
    simp [heq] at hne

theorem route_of_not_has {g : Registry} {kind : Kind} (h : g.has kind = false) :
    g.route kind = g.relay.elim .drop .relay := by
  have hlookup : g.handlers.lookup kind = none := by
    rw [List.lookup_eq_none_iff]
    intro x hx
    have hne := List.any_eq_false.mp h x hx
    rw [beq_iff_eq] at hne
    exact bne_iff_ne.mpr (Ne.symm hne)
  unfold route
  rw [hlookup]
  cases g.relay <;> rfl

end Registry

end FrameLink
