import FrameLink.Proofs.Channel.Blocks
import FrameLink.Proofs.Stream.Reader

/-!
A channel that relays to another.

Of many channels, one has a sender of another for its relay, or a sender of its own: frames that no
handler takes go out through that channel. A step is a section of anyone's work on any of the
channels. The relay's call is made by the thread of the first channel, so on the second one it is a
party of its own, unless both are the same. The net keeps account of what that thread reads and
finds, of where the frames go, and of how each has fared on its way through the second channel.
-/

namespace FrameLink

/-- A frame on its way through the channel that it is relayed to. -/
structure Hop where
  frame : Frame
  /-- The channel as it was when its writer was looked at, under the writer lock. -/
  seen : Option Channel := none
  /-- The link did not take a write or the flush. -/
  balked : Bool := false
  /-- The channel as it was when the call came back. -/
  left : Option Channel := none

namespace Hop

/-- The link takes none of what it is offered. An interrupted call is only made again. -/
def balksWrite : Except IoError Nat → Bool
  | .ok k => k == 0
  | .error e => decide (e.kind ≠ .interrupted)

def balksFlush : Except IoError Unit → Bool
  | .ok () => false
  | .error e => decide (e.kind ≠ .interrupted)

/-- Whether the link balks at what the call does at a point. -/
def balks (c : Channel) : Point → Bool
  | .send _ (.writing n (x :: rest)) => balksWrite (c.writeTo n (x :: rest)).1
  | .send _ (.flushing n) => balksFlush (c.flushTo n).1
  | _ => false

/-- The call for the hop is through with a section. -/
def work (h : Hop) (before : Channel) (p : Point) (next : Next) (after : Channel) : Hop where
  frame := h.frame
  seen := match p with
    | .send _ .locked => some before
    | _ => h.seen
  balked := h.balked || balks before p
  left := match next with
    | .back _ _ => some after
    | .on _ => h.left

/-- How a frame fares on a channel with the given limits: what the call comes back with depends on
the writer, the size of the payload, and whether the link takes all that is written. -/
inductive Fares (l : Limits) (h : Hop) : Except ChannelError Unit → Prop where
  | away {c} (seen : h.seen = some c) (none : c.writer = none) :
      Fares l h (.error (if c.halted then .halted else .notConnected))
  | tooLong {c n} (seen : h.seen = some c) (writer : c.writer = some n)
      (long : l.payload < h.frame.payload.length) :
      Fares l h (.error (.frame (.payloadTooLarge h.frame.payload.length l.payload)))
  | broken {c n e} (seen : h.seen = some c) (writer : c.writer = some n)
      (fits : h.frame.payload.length ≤ l.payload) (balked : h.balked = true) :
      Fares l h (.error (.sendFailed e))
  | through {c n d} (seen : h.seen = some c) (writer : c.writer = some n)
      (live : c.transport.current = some n) (fits : h.frame.payload.length ≤ l.payload)
      (took : h.balked = false) (left : h.left = some d)
      (written : (d.transport.link n).written = (c.transport.link n).written ++ h.frame.wire) :
      Fares l h (.ok ())

end Hop

namespace Duty

/-- The frame that has come in and is not passed on yet. -/
def noted : Duty → Option Frame
  | .passing f => some f
  | _ => none

/-- The frame that is with the relay. -/
def inHand : Duty → Option Frame
  | .relaying f _ => some f
  | _ => none

@[simp] lemma inHand_put (p : Point) (d : Duty) : (d.put p).inHand = d.inHand := by cases d <;> rfl

@[simp] lemma noted_put (p : Point) (d : Duty) : (d.put p).noted = d.noted := by cases d <;> rfl

end Duty

/-- The frame, if no handler takes its kind and there is a relay. -/
def relayedFrame : Frame × Registry → Option Frame
  | (f, g) => if g.has f.kind = false ∧ g.relay.isSome then some f else none

lemma eq_of_relayedFrame {x : Frame × Registry} {f : Frame} (h : relayedFrame x = some f) :
    x.1 = f :=
  Option.some.inj (Option.ite_none_right_eq_some.mp h).2

/-- What the thread of a channel has read, and what has become of it. -/
structure Log where
  /-- All bytes in order, each with the link that it came from. -/
  read : List (Nat × UInt8) := []
  /-- The frames found in them, each with its link. -/
  found : List (Nat × Frame) := []
  /-- The frames that were passed on, each by the registry as it was then. -/
  routed : List (Frame × Registry) := []

/-- Bytes of a link. -/
def Log.of (n : Nat) (b : Bytes) : List (Nat × UInt8) := b.map (n, ·)

/-- The thread gets to a point with a section: it may have read, or passed on a frame. -/
def Log.turn (log : Log) (t : Traffic) (d : Duty) : Log :=
  match t.duty, t.channel.receiver with
  | .idle, .reading n scanner _ =>
    { log with
      read := log.read ++ of n (Reader.intake ⟨scanner, (t.channel.transport.link n).inbound⟩)
      found := log.found ++ d.noted.toList.map (n, ·) }
  | .passing f, _ =>
    { log with routed := log.routed ++ [(f, t.channel.registry)] }
  | _, _ => log

/-- Many channels, and the account that is kept of one that relays to another. -/
structure Net where
  traffic : Nat → Traffic
  log : Log := {}
  /-- The frame that is on its way. -/
  hop : Option Hop := none
  /-- The frames that were on their way before, and what the calls came back with. -/
  hops : List (Hop × Except ChannelError Unit) := []

namespace Net

def put (n : Net) (i : Nat) (t : Traffic) : Net :=
  { n with traffic := Function.update n.traffic i t }

variable (a b : Nat)

/-- Who makes the calls of the relay of `a` on `b`. -/
def seat : Party := if a = b then .thread else .caller 0

/-- The party makes calls for the relay, or has its own calls made there. -/
def Bound (n : Net) (i : Nat) (who : Party) : Prop :=
  i = a ∧ who = .thread ∧ (n.traffic a).duty.inHand ≠ none ∨ a ≠ b ∧ i = b ∧ who = .caller 0

/-- One step of anyone. The first channel has no relay but the sender of the second. -/
inductive Step (n : Net) : Net → Prop where
  | begins {i who call next c} (own : ¬ n.Bound a b i who)
      (relays : i = a → ∀ r, call = .relay (some r) → r = .channel b)
      (here : (n.traffic i).point who = some .free) (begins : (n.traffic i).Begins call next c) :
      Step n (n.put i ((n.traffic i).after who next { (n.traffic i).toShared with channel := c }))
  | acts {i who p next s} (own : ¬ n.Bound a b i who) (here : (n.traffic i).point who = some p)
      (acts : (n.traffic i).Acts who p next s) : Step n (n.put i ((n.traffic i).after who next s))
  | hears {i c} (hears : (n.traffic i).channel.Hears c) :
      Step n (n.put i { n.traffic i with channel := c })
  | turns {i d d' c} (own : i = a → d.inHand = none) (here : (n.traffic i).duty = d)
      (turns : (n.traffic i).Turns d d' c) :
      Step n { n.put i ((n.traffic i).turned d' c) with
        log := if i = a then n.log.turn (n.traffic a) d' else n.log }
  /-- The relay is called with a frame, and calls on the second channel. -/
  | hands {f} (idle : n.hop = none) (here : (n.traffic a).duty = .relaying f .free)
      (free : (n.traffic b).point (seat a b) = some .free) :
      Step n { n.put b ((n.traffic b).after (seat a b) (.on (.send f .begun)) (n.traffic b).toShared)
        with hop := some { frame := f } }
  | works {h p next s} (out : n.hop = some h) (here : (n.traffic b).point (seat a b) = some p)
      (acts : (n.traffic b).Acts (seat a b) p next s) :
      Step n { n.put b ((n.traffic b).after (seat a b) next s) with
        hop := some (h.work (n.traffic b).channel p next s.channel) }
  /-- The call has come back, and so does the relay. -/
  | returns {h f call r} (out : n.hop = some h) (here : (n.traffic a).duty = .relaying f .free)
      (free : (n.traffic b).point (seat a b) = some .free)
      (reply : ((n.traffic b).made (seat a b)).getLast? = some (call, .ofExcept r)) :
      Step n { n.put a ((n.traffic a).turned .idle ((n.traffic a).channel.countRelayed r)) with
        hop := none
        hops := n.hops ++ [(h, r)] }

def Runs : Net → Net → Prop := Relation.ReflTransGen (Step a b)

/-- All channels are new, and nothing has happened on them. -/
structure IsNew (n : Net) : Prop where
  fresh : ∀ i, ∃ config name connects writes flushes spawns,
    n.traffic i = .start config name connects writes flushes spawns
  log : n.log = {}
  hop : n.hop = none
  hops : n.hops = []

variable {a b : Nat} {n m : Net} {i : Nat} {t : Traffic} {who : Party}

lemma not_bound_thread (own : ¬ n.Bound a b a who) (hwho : who = .thread) :
    (n.traffic a).duty.inHand = none := by
  by_contra hd
  exact own (.inl ⟨rfl, hwho, hd⟩)

/-- While the relay is in a call, no one else makes calls in its seat. -/
lemma not_bound_seat (own : ¬ n.Bound a b b who) (busy : a ≠ b ∨ (n.traffic a).duty.inHand ≠ none) :
    who ≠ seat a b := by
  rintro rfl
  by_cases hab : a = b
  · subst hab
    exact own (.inl ⟨rfl, if_pos rfl, busy.resolve_left fun hne => hne rfl⟩)
  · exact own (.inr ⟨hab, rfl, if_neg hab⟩)

@[simp] lemma traffic_put_self : (n.put i t).traffic i = t := Function.update_self ..

lemma traffic_put_other {j : Nat} (h : j ≠ i) : (n.put i t).traffic j = n.traffic j :=
  Function.update_of_ne h ..

lemma put_put {u : Traffic} : (n.put i t).put i u = n.put i u := by
  rw [put, put, put, Function.update_idem]

/-- A step of the net is a step on one channel. -/
lemma Step.traffic (hs : n.Step a b m) (j : Nat) :
    m.traffic j = n.traffic j ∨ (n.traffic j).Step (fun _ => True) (m.traffic j) := by
  have hput {i : Nat} {u : Traffic} (hu : (n.traffic i).Step (fun _ => True) u) :
      (n.put i u).traffic j = n.traffic j ∨
        (n.traffic j).Step (fun _ => True) ((n.put i u).traffic j) := by
    by_cases hj : j = i
    · subst hj
      exact .inr (by rwa [traffic_put_self])
    · exact .inl (traffic_put_other hj)
  cases hs with
  | begins own relays here begins => exact hput (.begins trivial here begins)
  | acts own here acts => exact hput (.acts here acts)
  | hears hears => exact hput (.hears hears)
  | turns own here turns => exact hput (.turns here turns)
  | hands idle here free => exact hput (.begins trivial free (.send _))
  | works out here acts => exact hput (.acts here acts)
  | returns out here free reply => exact hput (.turns here (.relayed _))

/-- **A run of the net is a run of each channel.** -/
theorem Runs.traffic (run : n.Runs a b m) (j : Nat) :
    (n.traffic j).Runs (fun _ => True) (m.traffic j) := by
  induction run with
  | refl => exact .refl
  | tail _ hs ih =>
    rcases hs.traffic j with hsame | hstep
    · rwa [hsame]
    · exact ih.tail hstep

end Net

end FrameLink
