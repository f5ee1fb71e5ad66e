import FrameLink.Proofs.Channel.Alone
import FrameLink.Proofs.Channel.Rest

/-!
Sections that take nothing up.

Apart from a call that connects and a receive thread that opens a link, everyone only lets go of what
the channel holds. Where there is no link, that is all, and nothing shows outside.
-/

namespace FrameLink

/-- What was written to each link. -/
def Transport.written (t : Transport) : List Bytes := t.links.map (·.written)

namespace Channel

/-! ### What is let go stays so -/

/-- Nothing that is let go on a channel is taken up again, and without a link nothing shows outside. -/
structure Calms (c c' : Channel) : Prop where
  halted : c.halted = true → c'.halted = true
  current : c.transport.current = none → c'.transport.current = none
  pending : c.pending = none → c'.pending = none
  writer : c.writer = none → c'.writer = none
  state : c.state = .disconnected → c'.state = .disconnected
  trace : c.transport.current = none → c'.trace = c.trace
  written : c.transport.current = none → c'.transport.written = c.transport.written

variable {c c' : Channel} {n : Nat}

lemma Calms.refl (c : Channel) : c.Calms c := ⟨id, id, id, id, id, fun _ => rfl, fun _ => rfl⟩

lemma Calms.trans {d : Channel} (h : c.Calms c') (h' : c'.Calms d) : c.Calms d where
  halted := h'.halted ∘ h.halted
  current := h'.current ∘ h.current
  pending := h'.pending ∘ h.pending
  writer := h'.writer ∘ h.writer
  state := h'.state ∘ h.state
  trace hc := (h'.trace (h.current hc)).trans (h.trace hc)
  written hc := (h'.written (h.current hc)).trans (h.written hc)

lemma calms_count (c : Channel) (f : Counters → Counters) : c.Calms (c.count f) :=
  ⟨id, id, id, id, id, fun _ => rfl, fun _ => rfl⟩

lemma calms_listen (c : Channel) (n : Nat) : c.Calms (c.listen n) :=
  ⟨id, id, id, id, id, fun _ => rfl, fun _ => rfl⟩

lemma calms_halt (c : Channel) : c.Calms (c.setHalted true) :=
  ⟨fun _ => rfl, id, id, id, id, fun _ => rfl, fun _ => rfl⟩

lemma calms_show (c : Channel) : c.Calms (c.setState .disconnected) :=
  ⟨id, id, id, id, fun _ => rfl, fun _ => rfl, fun _ => rfl⟩

lemma calms_dropPending (c : Channel) : c.Calms c.dropPending :=
  ⟨id, id, fun _ => rfl, id, id, fun _ => rfl, fun _ => rfl⟩

lemma calms_dropWriter (c : Channel) : c.Calms c.dropWriter :=
  ⟨id, id, id, fun _ => rfl, id, fun _ => rfl, fun _ => rfl⟩

/-- There is no link to close. -/
lemma closeLink_of_none (h : c.transport.current = none) : c.closeLink = c := by
  simp only [closeLink, noteClosing, h, Transport.disconnect]

/-- What is to be noted when the open link is closed, if there is one. -/
def closing (c : Channel) : List Event :=
  (c.transport.current.map (Event.closed c.transport.name)).toList

lemma closeLink_eq (c : Channel) :
    c.closeLink = { c with transport := c.transport.disconnect, trace := c.trace ++ c.closing } := by
  simp only [closeLink, noteClosing, closing]
  cases c.transport.current <;> simp [note]

lemma current_closeLink (c : Channel) : c.closeLink.transport.current = none :=
  congrArg Wiring.current (wiring_closeLink c)

lemma calms_closeLink (c : Channel) : c.Calms c.closeLink := by
  have hw := wiring_closeLink c
  exact {
    halted := (congrArg Wiring.halted hw).trans
    current := fun _ => current_closeLink c
    pending := (congrArg Wiring.pending hw).trans
    writer := (congrArg Wiring.writer hw).trans
    state := (congrArg Wiring.state hw).trans
    trace := fun h => by rw [closeLink_of_none h]
    written := fun h => by rw [closeLink_of_none h] }

lemma written_onLink (t : Transport) (n : Nat) {f : Link → Link} (hf : ∀ l, (f l).written = l.written) :
    (t.onLink n f).written = t.written := by
  apply List.ext_getElem?
  intro i
  simp only [Transport.written, Transport.onLink, List.getElem?_map, List.getElem?_modify]
  split
  · cases t.links[i]? <;> simp [hf]
  · simp

lemma calms_readOn (c : Channel) (n : Nat) (scanner : Scanner) (seen : ScanTally) :
    c.Calms (c.readOn n scanner seen).2 := by
  unfold readOn
  dsimp only
  split <;> exact ⟨id, id, id, id, id, fun _ => rfl, fun _ => written_onLink _ _ fun _ => rfl⟩

lemma calms_passOn (c : Channel) (f : Frame) : c.Calms (c.passOn f).2 := by
  unfold passOn
  repeat' split
  all_goals simp only [calms_count, Calms.refl]

lemma calms_countHandled (c : Channel) (e : Ending) : c.Calms (c.countHandled e) := by
  cases e <;> simp only [countHandled, calms_count]

lemma calms_countRelayed (c : Channel) (r : Except ChannelError Unit) :
    c.Calms (c.countRelayed r) := by
  cases r <;> simp only [countRelayed, calms_count]

/-- A sink that took nothing leaves nothing. -/
lemma calms_noteWritten (c : Channel) (n : Nat) {s : Sink}
    (h : c.transport.current = none → s.pieces = []) : c.Calms (c.noteWritten n s) where
  halted := id
  current := id
  pending := id
  writer := id
  state := id
  trace hc := by simp [noteWritten, h hc]
  written hc := written_onLink _ _ fun l => by simp [Sink.accepted, h hc]

lemma pieces_write_of_closed {s : Sink} (h : s.isClosed = true) (b : Bytes) :
    (s.write b).2.pieces = s.pieces := by
  simp [Sink.write, h]

lemma pieces_flush (s : Sink) : s.flush.2.pieces = s.pieces := by
  unfold Sink.flush
  split <;> rfl

lemma calms_writeTo (c : Channel) (n : Nat) (b : Bytes) : c.Calms (c.writeTo n b).2 := by
  refine calms_noteWritten c n fun h => ?_
  rw [pieces_write_of_closed (by simp [Transport.sink, Transport.isOpen, h])]
  rfl

lemma calms_flushTo (c : Channel) (n : Nat) : c.Calms (c.flushTo n).2 :=
  calms_noteWritten c n fun _ => pieces_flush _

lemma calms_vacate (c : Channel) : c.Calms c.vacate := by
  have hended : c.Calms { c with receiver := .ended } :=
    ⟨id, id, id, id, id, fun _ => rfl, fun _ => rfl⟩
  unfold vacate
  dsimp only
  split
  · exact hended
  · exact hended.trans (calms_show _)

/-- Without a link nothing comes of what the far end does. -/
lemma Hears.calms (h : c.Hears c') : c.Calms c' := by
  have hdeliver (item : Inbound) : c.Calms { c with transport := c.transport.deliver item } := by
    unfold Transport.deliver
    split
    · refine ⟨id, id, id, id, id, fun _ => rfl, fun _ => written_onLink _ _ fun l => ?_⟩
      split <;> rfl
    · exact .refl c
  cases h with
  | feed b =>
    unfold Transport.feed
    split
    · exact .refl c
    · exact hdeliver _
  | failRead e => exact hdeliver _
  | endInput =>
    unfold Transport.endInput
    split
    · exact ⟨id, id, id, id, id, fun _ => rfl, fun _ => written_onLink _ _ fun _ => rfl⟩
    · exact .refl c

lemma calms_brief {call : Call} (h : call.IsBrief) : c.Calms (c.perform call).2 := by
  cases call <;> first
    | exact h.elim
    | exact ⟨id, id, id, id, id, fun _ => rfl, fun _ => rfl⟩

end Channel

/-! ### Who is opening a link -/

/-- The thread has found the channel not halted, and is opening a link or keeps one that it opened. -/
def Duty.Opens : Duty → Prop
  | .cleared _ | .announced _ | .opened _ | .kept _ | .installed _ => True
  | _ => False

lemma Duty.opens_put (p : Point) (d : Duty) : (d.put p).Opens ↔ d.Opens := by
  cases d <;> rfl

lemma Duty.Opens.hasLink {d : Duty} (h : d.Opens) : d.HasLink := by
  cases d <;> first | exact h.elim | trivial

namespace Traffic

variable {t u : Traffic} {who w : Party} {p : Point} {next : Next} {s : Shared} {d d' : Duty}
  {c : Channel}

lemma Closes.calms {stage : Closing} {next : Option Closing} (h : t.Closes stage next c) :
    t.channel.Calms c := by
  cases h with
  | close => exact (Channel.calms_dropPending _).trans (Channel.calms_closeLink _)
  | silence => exact Channel.calms_dropWriter _
  | shown => exact Channel.calms_show _

lemma Sends.calms {f : Frame} {stage : Sending} (h : t.Sends f stage next c) :
    t.channel.Calms c := by
  have hflush {n r c} (flushes : t.channel.flushTo n = (r, c)) : t.channel.Calms c := by
    have hcalm := Channel.calms_flushTo t.channel n
    rwa [flushes] at hcalm
  cases h with
  | lock | deny | refuse | accept | written => exact .refl _
  | write => exact Channel.calms_writeTo _ _ _
  | flush flushes => exact (hflush flushes).trans (Channel.calms_count _ _)
  | flushInVain flushes => exact hflush flushes
  | halt => exact Channel.calms_halt _
  | close closes | finish closes => exact closes.calms

/-- Only a call that connects takes something up, and only one that terminates shows that it halts. -/
lemma Acts.calms (h : t.Acts who p next s) (hconnect : ¬ p.IsConnect)
    (hhalted : p ≠ .terminate .halted) : t.channel.Calms s.channel := by
  cases h with
  | connect => exact absurd trivial hconnect
  | disconnect closes | disconnected closes => exact closes.calms
  | send sends => exact sends.calms
  | terminate acts =>
    cases acts with
    | halt => exact Channel.calms_halt _
    | announce => exact absurd rfl hhalted
    | close => exact (Channel.calms_dropPending _).trans (Channel.calms_closeLink _)
    | silence => exact Channel.calms_dropWriter _
    | join | skip => exact ⟨id, id, id, id, id, fun _ => rfl, fun _ => rfl⟩
    | joined => exact .refl _
    | finish => exact Channel.calms_show _

lemma Begins.calms {call : Call} (h : t.Begins call next c) : t.channel.Calms c := by
  cases h with
  | connect | disconnect | terminate | send => exact .refl _
  | brief call hbrief => exact Channel.calms_brief hbrief

lemma Turns.calms (h : t.Turns d d' c) (hd : ¬ d.Opens) : t.channel.Calms c := by
  have hlisten (n : Nat) : t.channel.Calms (t.channel.dropPending.listen n) :=
    (Channel.calms_dropPending _).trans (Channel.calms_listen _ n)
  have hread {n scanner seen o c} (read : t.channel.readOn n scanner seen = (o, c)) :
      t.channel.Calms c := by
    have hcalm := Channel.calms_readOn t.channel n scanner seen
    rwa [read] at hcalm
  cases h with
  | blocked _ read | broken _ read => exact hread read
  | heard _ read => exact (hread read).trans ⟨id, id, id, id, id, fun _ => rfl, fun _ => rfl⟩
  | passed => exact Channel.calms_passOn _ _
  | handled e => exact Channel.calms_countHandled _ e
  | relayed r => exact Channel.calms_countRelayed _ r
  | panicked | look | giveUp | lock | check | leave => exact .refl _
  | takeUp | takeUpLate | stay => exact hlisten _
  | close => exact Channel.calms_closeLink _
  | silence | unwindWriter => exact Channel.calms_dropWriter _
  | delayed => exact Channel.calms_count _ _
  | shown | wait | unwound =>
    exact (Channel.calms_show _).trans ⟨id, id, id, id, id, fun _ => rfl, fun _ => rfl⟩
  | announce | dial | dialInVain | abort | keep | install | reconnect => exact absurd trivial hd
  | retire =>
    exact (Channel.calms_dropPending _).trans ⟨id, id, id, id, id, fun _ => rfl, fun _ => rfl⟩
  | vacate => exact Channel.calms_vacate _
  | unwind =>
    refine .trans ?_ (Channel.calms_closeLink _)
    exact (Channel.calms_dropPending _).trans ⟨id, id, id, id, id, fun _ => rfl, fun _ => rfl⟩

lemma Turns.halted (h : t.Turns d d' c) (hh : t.channel.halted = true) : c.halted = true := by
  by_cases hd : d.Opens
  · cases h with
    | announce | keep | install | reconnect => exact hh
    | abort => exact (Channel.calms_closeLink _).halted hh
    | dial opens | dialInVain opens =>
      have hopen := Channel.halted_openLink t.channel
      rw [opens] at hopen
      exact hopen.trans hh
    | _ => exact hd.elim
  · exact (h.calms hd).halted hh

/-- A thread that has not looked yet finds the halt. -/
lemma Turns.opens (h : t.Turns d d' c) (hd : ¬ d.Opens) (hh : t.channel.halted = true) :
    ¬ d'.Opens := by
  cases h with
  | passed =>
    rcases Duty.ofStage_cases (t.channel.passOn _).1 with h | h | ⟨_, h⟩ <;> rw [h] <;> exact id
  | look | check => simp [hh, Duty.Opens]
  | _ => first | exact id | exact absurd trivial hd

end Traffic

end FrameLink
