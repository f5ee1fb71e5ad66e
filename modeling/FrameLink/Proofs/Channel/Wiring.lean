import Mathlib.Data.List.Basic
import FrameLink.Channel.Receive
import FrameLink.Proofs.Stream.Reader

/-!
What the sections of a channel do to its links.

The wiring of a channel is what its calls and its receive thread share: the links, who holds which of
them, and the state. Every section changes it in one of a few ways, whatever the registry, the
counters and the outbound side are.
-/

namespace FrameLink

/-- The links of a channel, and who holds which of them. -/
structure Wiring where
  limits : Limits
  /-- The inbound side of each link. -/
  sources : List Source
  current : Option Nat
  pending : Option Nat
  receiving : Bool
  writer : Option Nat
  state : ChannelState
  halted : Bool
  receiver : Receiver
  last : Option Frame
  /-- What a link still gives once it is closed on this side. -/
  leaves : Source → Source

/-- What the far end does is queued, unless the stream is at its end already. -/
def Source.queue (s : Source) (item : Inbound) : Source :=
  if s.isLive then { s with script := s.script ++ [item] } else s

/-- Nothing more will be queued. -/
def Source.cease (s : Source) : Source := { s with isLive := false }

namespace Wiring

/-- The inbound side of a link; one that was never opened is like a closed one. -/
def source (w : Wiring) (n : Nat) : Source := w.sources.getD n Source.ended

/-- The open link is closed, and gives what it leaves. -/
def closed (w : Wiring) : Wiring :=
  { w with
    sources := match w.current with
      | some n => w.sources.modify n w.leaves
      | none => w.sources
    current := none }

/-- A link is opened in place of the open one. -/
def opened (w : Wiring) : Wiring :=
  { w.closed with
    sources := w.closed.sources ++ [{ isLive := true }]
    current := some w.sources.length }

/-- The receive thread reads a link from its beginning. -/
def listening (w : Wiring) (n : Nat) : Wiring :=
  { w with receiver := .reading n (Scanner.fresh w.limits) {} }

/-- The waiting link is taken up by the receive thread. -/
def handed (w : Wiring) (n : Nat) : Wiring := { w with pending := none }.listening n

/-- The open link is closed, and what holds it is let go. -/
def down (w : Wiring) : Wiring := { w.closed with pending := none, writer := none }

/-- A link is opened and made the one that frames are written to. -/
def connected (w : Wiring) : Wiring :=
  { w.opened with writer := some w.sources.length, state := .connected }

/-- The thread ends, and with it all that waits for it. -/
def retired (w : Wiring) : Wiring :=
  { w with
    pending := none, receiving := false, receiver := .ended
    state := if w.state = .halting then .halting else .disconnected }

/-- Something happens on the inbound side of the open link. -/
def onOpen (w : Wiring) (f : Source → Source) : Wiring :=
  match w.current with
  | some n => { w with sources := w.sources.set n (f (w.source n)) }
  | none => w

lemma onOpen_of_some {w : Wiring} {n : Nat} (h : w.current = some n) (f : Source → Source) :
    w.onOpen f = { w with sources := w.sources.set n (f (w.source n)) } := by
  simp only [onOpen, h]

lemma onOpen_of_none {w : Wiring} (h : w.current = none) (f : Source → Source) :
    w.onOpen f = w := by
  simp only [onOpen, h]

@[simp] lemma length_closed (w : Wiring) : w.closed.sources.length = w.sources.length := by
  unfold closed
  cases w.current <;> simp

@[simp] lemma receiver_onOpen (w : Wiring) (f : Source → Source) :
    (w.onOpen f).receiver = w.receiver := by
  unfold onOpen
  split <;> rfl

/-- What an attempt to open a link leaves of the wiring. -/
inductive Established (w : Wiring) : Wiring → Prop where
  | refused : Established w { w.closed with state := .disconnected }
  | handedOver (running : w.receiving = true) :
      Established w { w.connected with pending := some w.sources.length }
  | spawned (idle : w.receiving = false) :
      Established w ({ w.connected with receiving := true }.listening w.sources.length)
  | unspawned (idle : w.receiving = false) :
      Established w { w.opened.closed with writer := none, state := .disconnected }

/-- What a call that does not connect leaves of the wiring. -/
inductive Released (w : Wiring) : Wiring → Prop where
  | same : Released w w
  | down (halted : Bool) (keep : w.halted = true → halted = true) :
      Released w { w.down with halted, state := .disconnected }

/-- What a call leaves of the wiring. -/
inductive Called (w : Wiring) : Wiring → Prop where
  | same : Called w w
  | down (halted : Bool) (keep : w.halted = true → halted = true) :
      Called w { w.down with halted, state := .disconnected }
  | connect {w' : Wiring} (tried : Established { w with halted := false } w') : Called w w'

end Wiring

namespace Channel

/-- The wiring of a channel. -/
def wiring (c : Channel) : Wiring where
  limits := c.config.limits
  sources := c.transport.links.map (·.inbound)
  current := c.transport.current
  pending := c.pending
  receiving := c.receiving
  writer := c.writer
  state := c.state
  halted := c.halted
  receiver := c.receiver
  last := c.lastReceived
  leaves := c.transport.leaves

variable (c : Channel) {c' : Channel} {n k : Nat}

/-! ### The transport -/

lemma source_wiring (n : Nat) : c.wiring.source n = (c.transport.link n).inbound := by
  simp only [Wiring.source, wiring, Transport.link, List.getD_eq_getElem?_getD, List.getElem?_map]
  cases c.transport.links[n]? <;> rfl

/-- Changing the inbound side of a link changes that side alone. -/
lemma map_inbound_modify_by (links : List Link) (n : Nat) (f : Source → Source) :
    (links.modify n fun l => { l with inbound := f l.inbound }).map (·.inbound) =
      (links.map (·.inbound)).modify n f := by
  apply List.ext_getElem?
  intro i
  simp only [List.getElem?_map, List.getElem?_modify]
  by_cases hi : n = i <;> simp [hi, Function.comp_def]

lemma map_inbound_modify (links : List Link) (n : Nat) (s : Source) :
    (links.modify n fun l => { l with inbound := s }).map (·.inbound) =
      (links.map (·.inbound)).set n s := by
  rw [List.set_eq_modify]
  exact map_inbound_modify_by links n fun _ => s

@[simp] lemma wiring_note (e : Event) : (c.note e).wiring = c.wiring := rfl

@[simp] lemma wiring_count (f : Counters → Counters) : (c.count f).wiring = c.wiring := rfl

@[simp] lemma wiring_noteClosing : c.noteClosing.wiring = c.wiring := by
  unfold noteClosing
  split <;> rfl

@[simp] lemma wiring_setState (s : ChannelState) :
    (c.setState s).wiring = { c.wiring with state := s } := rfl

@[simp] lemma wiring_dropPending : c.dropPending.wiring = { c.wiring with pending := none } := rfl

@[simp] lemma wiring_dropWriter : c.dropWriter.wiring = { c.wiring with writer := none } := rfl

@[simp] lemma wiring_install (n : Nat) : (c.install n).wiring = { c.wiring with writer := some n } :=
  rfl

@[simp] lemma wiring_listen (n : Nat) : (c.listen n).wiring = c.wiring.listening n := rfl

@[simp] lemma wiring_closeLink : c.closeLink.wiring = c.wiring.closed := by
  rw [← wiring_noteClosing c]
  unfold closeLink Transport.disconnect
  cases h : c.noteClosing.transport.current with
  | none => simp [wiring, Wiring.closed, h]
  | some n => simp [wiring, Wiring.closed, h, Transport.onLink, map_inbound_modify_by]

/-- An attempt to connect closes the open link first, and then opens a new one or fails. -/
lemma connect_transport (t : Transport) :
    (∃ t', t.connect = (.ok t.disconnect.links.length, t') ∧
      t'.links = t.disconnect.links ++ [({} : Link)] ∧ t'.current = some t.disconnect.links.length ∧
      t'.leaves = t.disconnect.leaves) ∨
    ∃ e t', t.connect = (.error e, t') ∧ t'.links = t.disconnect.links ∧
      t'.current = t.disconnect.current ∧ t'.leaves = t.disconnect.leaves := by
  unfold Transport.connect Transport.nextConnect
  cases t.disconnect.connects with
  | nil => exact Or.inl ⟨_, rfl, rfl, rfl, rfl⟩
  | cons outcome rest =>
    cases outcome with
    | ok => exact Or.inl ⟨_, rfl, rfl, rfl, rfl⟩
    | error e => exact Or.inr ⟨e, _, rfl, rfl, rfl, rfl⟩

lemma openLink_wiring :
    (∃ t, c.openLink = (.ok c.wiring.sources.length, t) ∧ t.wiring = c.wiring.opened) ∨
    ∃ e t, c.openLink = (.error e, t) ∧ t.wiring = c.wiring.closed := by
  have hclosed := wiring_closeLink c
  have hlen : c.noteClosing.transport.disconnect.links.length = c.wiring.sources.length := by
    rw [← Wiring.length_closed, ← hclosed]
    simp [wiring, closeLink]
  unfold openLink
  rcases connect_transport c.noteClosing.transport with ⟨t, ht, hl, hc, hv⟩ | ⟨e, t, ht, hl, hc, hv⟩
  · refine Or.inl ⟨{ c.noteClosing with transport := t }.note
      (.connected t.name c.wiring.sources.length), ?_, ?_⟩
    · simp only [ht, hlen]
    · simp only [wiring_note, Wiring.opened, ← hclosed]
      rw [hlen] at hc
      simp [wiring, closeLink, hl, hc, hv]
  · refine Or.inr ⟨e, { c.noteClosing with transport := t }.note (.refused t.name), ?_, ?_⟩
    · simp only [ht]
    · rw [wiring_note, ← hclosed]
      simp [wiring, closeLink, hl, hc, hv]

/-! ### Calls -/

lemma wiring_start (n : Nat) :
    (c.start n).2.wiring = { c.wiring with receiving := true }.listening n ∨
    (c.start n).2.wiring = { c.wiring.closed with writer := none, state := .disconnected } := by
  unfold start
  split
  · exact Or.inl rfl
  · exact Or.inl rfl
  · refine Or.inr ?_
    simp only [wiring_setState, wiring_dropWriter, wiring_closeLink]
    rfl

lemma established (c : Channel) : Wiring.Established c.wiring c.establish.2.wiring := by
  have hw : (c.setState .connecting).wiring = { c.wiring with state := .connecting } := rfl
  unfold establish
  rcases openLink_wiring (c.setState .connecting) with ⟨t, ht, hopen⟩ | ⟨e, t, ht, hclosed⟩
  · rw [hw] at ht hopen
    have hrun : t.receiving = c.wiring.receiving := congrArg Wiring.receiving hopen
    simp only [ht]
    split
    · next hr =>
      have hr' : c.wiring.receiving = true := hrun.symm.trans hr
      change Wiring.Established c.wiring { ((t.install c.wiring.sources.length).setState
        .connected).wiring with pending := some c.wiring.sources.length }
      simp only [wiring_setState, wiring_install, hopen]
      exact .handedOver hr'
    · next hr =>
      have hr' : c.wiring.receiving = false := by
        rw [Bool.not_eq_true] at hr
        exact hrun.symm.trans hr
      rcases wiring_start ((t.install c.wiring.sources.length).setState .connected)
        c.wiring.sources.length with hs | hs
      · simp only [hs, wiring_setState, wiring_install, hopen]
        exact .spawned hr'
      · simp only [hs, wiring_setState, wiring_install, hopen]
        exact .unspawned hr'
  · simp only [ht, wiring_setState, hclosed, hw]
    exact .refused

@[simp] lemma wiring_takeDown : c.takeDown.wiring = c.wiring.down := by
  unfold takeDown
  simp only [wiring_dropWriter, wiring_closeLink, wiring_dropPending]
  rfl

@[simp] lemma wiring_disconnect :
    c.disconnect.wiring = { c.wiring.down with state := .disconnected } := by
  unfold disconnect
  rw [wiring_setState, wiring_takeDown]

@[simp] lemma wiring_endTerminate :
    c.endTerminate.wiring = { c.wiring with state := .disconnected } := rfl

lemma wiring_terminateHere :
    c.terminateHere.wiring = { c.wiring.down with halted := true, state := .disconnected } := by
  unfold terminateHere beginTerminate
  rw [wiring_endTerminate, wiring_takeDown]
  rfl

lemma joinable_beginTerminate (c : Channel) : c.beginTerminate.joinable = c.joinable := by
  unfold beginTerminate takeDown closeLink noteClosing
  dsimp only
  split <;> rfl

/-- What was written leaves no trace on the inbound side. -/
@[simp] lemma wiring_noteWritten (n : Nat) (s : Sink) : (c.noteWritten n s).wiring = c.wiring := by
  have hl : (c.transport.links.modify n fun l => { l with written := l.written ++ s.accepted }).map
      (·.inbound) = c.transport.links.map (·.inbound) := by
    apply List.ext_getElem?
    intro i
    simp only [List.getElem?_map, List.getElem?_modify]
    by_cases hi : n = i
    · subst hi
      cases c.transport.links[n]? <;> simp
    · simp [hi]
  simp only [wiring, noteWritten, Transport.absorb, Transport.onLink, hl]

@[simp] lemma wiring_write (f : Frame) : (c.write f).2.wiring = c.wiring := by
  unfold write
  split
  · rfl
  · split
    · rfl
    · dsimp only
      split <;> simp only [wiring_count, wiring_noteWritten]

lemma wiring_send (f : Frame) :
    (c.send f).2.wiring = c.wiring ∨
    (c.send f).2.wiring = { c.wiring.down with halted := true, state := .disconnected } := by
  have hw := wiring_write c f
  unfold send
  split
  · next e t ht =>
    right
    rw [ht] at hw
    change t.failSend.wiring = _
    rw [← hw, failSend, wiring_disconnect]
    rfl
  · exact Or.inl hw

/-- A call that does not connect leaves the wiring alone or takes the link down. -/
lemma released {call : Call} (h : call ≠ .connect) :
    Wiring.Released c.wiring (c.perform call).2.wiring := by
  cases call with
  | connect => exact absurd rfl h
  | disconnect =>
    change Wiring.Released c.wiring c.disconnect.wiring
    rw [wiring_disconnect]
    exact .down _ id
  | terminate =>
    change Wiring.Released c.wiring c.terminateHere.wiring
    rw [wiring_terminateHere]
    exact .down true fun _ => rfl
  | send f =>
    change Wiring.Released c.wiring (c.send f).2.wiring
    rcases wiring_send c f with h | h
    · rw [h]
      exact .same
    · rw [h]
      exact .down true fun _ => rfl
  | last | register kind h | unregister kind | relay r => exact .same

/-- A call leaves the wiring alone, takes the link down, or tries to open one. -/
lemma called (call : Call) : Wiring.Called c.wiring (c.perform call).2.wiring := by
  by_cases h : call = .connect
  · subst h
    exact .connect (established (c.setHalted false))
  · have hreleased := released c h
    generalize (c.perform call).2.wiring = w at hreleased ⊢
    cases hreleased with
    | same => exact .same
    | down halted keep => exact .down halted keep

/-! ### Sections of the receive thread -/

lemma wiring_takeOver_waiting (h : c.pending = some n) : c.takeOver.wiring = c.wiring.handed n := by
  unfold takeOver
  simp only [h]
  rfl

lemma wiring_takeOver_lost (h : c.pending = none) :
    c.takeOver.wiring =
      { c.wiring.closed with writer := none, state := .disconnected, receiver := .waiting 0 } := by
  unfold takeOver
  simp only [h]
  rw [← wiring_closeLink]
  rfl

lemma wiring_attempt_waiting (h : c.pending = some n) :
    (c.attempt k).wiring = c.wiring.handed n := by
  unfold attempt
  simp only [h]
  rfl

lemma wiring_attempt_none (h : c.pending = none) :
    (c.attempt k).wiring = c.wiring.connected.listening c.wiring.sources.length ∨
    (c.attempt k).wiring =
      { c.wiring.closed with state := .disconnected, receiver := .waiting (k + 1) } := by
  unfold attempt
  simp only [h]
  rcases openLink_wiring (c.setState .connecting) with ⟨t, ht, hopen⟩ | ⟨e, t, ht, hclosed⟩
  · left
    simp only [ht, wiring_listen, wiring_setState, wiring_install, hopen]
    rfl
  · right
    simp only [ht]
    change { (t.setState .disconnected).wiring with receiver := .waiting (k + 1) } = _
    rw [wiring_setState, hclosed]
    rfl

/-- A link that is opened and closed again. -/
lemma wiring_aborted {c' : Channel} (h : (c.setState .connecting).openLink = (.ok n, c')) :
    c'.closeLink.wiring = { c.wiring.opened.closed with state := .connecting } := by
  rw [wiring_closeLink]
  rcases openLink_wiring (c.setState .connecting) with ⟨t, ht, hopen⟩ | ⟨e, t, ht, -⟩
  · obtain rfl : t = c' := congrArg Prod.snd (ht.symm.trans h)
    rw [hopen]
    rfl
  · simp [ht] at h

lemma wiring_retire_waiting (hh : c.halted = false) (h : c.pending = some n) :
    c.retire.wiring = c.wiring.handed n := by
  unfold retire
  simp only [hh, h]
  rfl

lemma wiring_retire_none (h : c.halted = true ∨ c.pending = none) :
    c.retire.wiring = c.wiring.retired := by
  unfold retire
  split
  · next n hh hp =>
    rcases h with h | h
    · simp [h] at hh
    · simp [h] at hp
  · by_cases hs : c.state = .halting
    · simp [wiring, Wiring.retired, dropPending, hs]
    · simp [wiring, Wiring.retired, dropPending, setState, hs]

lemma wiring_abandon :
    c.abandon.wiring = { c.wiring.down with
      state := .disconnected, receiving := false, receiver := .ended } := by
  unfold abandon
  simp only [wiring_setState, wiring_dropWriter, wiring_closeLink]
  rfl

/-- Reading on touches the link that is read, and nothing else. -/
lemma wiring_readOn (n : Nat) (scanner : Scanner) (seen : ScanTally) :
    (c.readOn n scanner seen).1 = (Reader.readFrame ⟨scanner, c.wiring.source n⟩).1 ∧
    ∃ seen', (c.readOn n scanner seen).2.wiring =
      { c.wiring with
        sources := c.wiring.sources.set n (Reader.readFrame ⟨scanner, c.wiring.source n⟩).2.source
        receiver := .reading n (Reader.readFrame ⟨scanner, c.wiring.source n⟩).2.scanner seen' } := by
  rw [source_wiring]
  unfold readOn
  dsimp only
  split
  · exact ⟨rfl, seen, by simp [wiring, Transport.onLink, map_inbound_modify]⟩
  · exact ⟨rfl, _, by simp [wiring, Transport.onLink, map_inbound_modify, absorb, count]; rfl⟩

/-- A request that finds a frame. -/
lemma readOn_of_found {scanner : Scanner} {seen : ScanTally} {f : Frame}
    {r : Reader} (h : Reader.readFrame ⟨scanner, (c.transport.link n).inbound⟩ = (.frame f, r)) :
    c.readOn n scanner seen = (.frame f,
      { { c with transport := c.transport.onLink n fun l => { l with inbound := r.source } }.absorb
          seen r.scanner.tally with
        receiver := .reading n r.scanner r.scanner.tally }) := by
  unfold readOn
  simp only [h]

lemma wiring_receive (f : Frame) : (c.receive f).wiring = { c.wiring with last := some f } := rfl

@[simp] lemma wiring_countRelayed (r : Except ChannelError Unit) :
    (c.countRelayed r).wiring = c.wiring := by
  cases r <;> rfl

/-! ### The far end -/

lemma wiring_onLink (n : Nat) (f : Source → Source) :
    { c with transport := c.transport.onLink n fun l => { l with inbound := f l.inbound } }.wiring =
      { c.wiring with sources := c.wiring.sources.set n (f (c.wiring.source n)) } := by
  have hl : (c.transport.links.modify n fun l => { l with inbound := f l.inbound }).map (·.inbound) =
      (c.transport.links.map (·.inbound)).set n (f (c.wiring.source n)) := by
    rw [← map_inbound_modify, source_wiring]
    congr 1
    apply List.ext_getElem?
    intro i
    simp only [List.getElem?_modify, Transport.link, List.getD_eq_getElem?_getD]
    by_cases hi : n = i
    · subst hi
      cases c.transport.links[n]? <;> simp
    · simp [hi]
  simp only [wiring, Transport.onLink, hl]

lemma deliver_of_some {t : Transport} (h : t.current = some n) (item : Inbound) :
    t.deliver item = t.onLink n fun l => { l with inbound := l.inbound.queue item } := by
  unfold Transport.deliver
  simp only [h]
  congr 1
  funext l
  unfold Source.queue
  split <;> rfl

lemma wiring_deliver (item : Inbound) :
    { c with transport := c.transport.deliver item }.wiring = c.wiring.onOpen (·.queue item) := by
  cases h : c.transport.current with
  | none =>
    rw [Wiring.onOpen_of_none h]
    simp only [Transport.deliver, h]
  | some n =>
    rw [Wiring.onOpen_of_some h, deliver_of_some h]
    exact wiring_onLink c n (·.queue item)

lemma wiring_endInput :
    { c with transport := c.transport.endInput }.wiring = c.wiring.onOpen Source.cease := by
  cases h : c.transport.current with
  | none =>
    rw [Wiring.onOpen_of_none h]
    simp only [Transport.endInput, h]
  | some n =>
    rw [Wiring.onOpen_of_some h]
    simp only [Transport.endInput, h]
    exact wiring_onLink c n Source.cease

end Channel

end FrameLink
