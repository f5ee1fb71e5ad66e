import Mathlib.Data.Nat.Init
import FrameLink.Proofs.Channel.Alone
import FrameLink.Proofs.Channel.Leftover
import FrameLink.Proofs.Channel.Spares

/-!
A channel whose `connect` has failed.

The link that was open is closed, and until another one is opened nothing is written to any link. But
the failing `connect` leaves the place of the writer as it was: if the writer of the closed link is still
in it, a send runs into that writer, and its failure halts the channel. From the moment the place is
empty, a send only says that the channel is not connected.
-/

namespace FrameLink

namespace Channel

variable {c : Channel} {n : Nat} {f : Frame} {e : TransportError}

/-! ### Writing without a link -/

/-- A write to a link that is not open fails, and changes nothing. -/
lemma write_of_closed (hwriter : c.writer = some n) (hclosed : c.transport.isOpen n = false)
    (hrefusal : c.config.limits.refusal? f = none) :
    c.write f = (.error (.sendFailed (.io Sink.closedError)), c) := by
  have hwrite : (ByteSink.write (c.transport.sink n) f.wire) =
      (.error Sink.closedError, c.transport.sink n) := by
    change (c.transport.sink n).write f.wire = _
    simp [Sink.write, Transport.sink, hclosed]
  have hall : Writer.writeAll (c.transport.sink n) f.wire =
      (.error (.io Sink.closedError), c.transport.sink n) := by
    rw [Writer.writeAll_failed (by simp [Frame.wire]) (congrArg Prod.fst hwrite) (by decide), hwrite]
  have hframe : Writer.writeFrame c.config.limits (c.transport.sink n) f =
      (.error (.io Sink.closedError), c.transport.sink n) := by
    simp only [Writer.writeFrame, hrefusal, hall]
  simp only [write, hwriter, hrefusal, hframe, noteWritten_sink]

lemma write_of_no_writer (hwriter : c.writer = none) :
    c.write f = (.error (if c.halted then .halted else .notConnected), c) := by
  simp only [write, hwriter]

lemma write_of_no_link (hcur : c.transport.current = none) (f : Frame) : (c.write f).2 = c := by
  cases hwriter : c.writer with
  | none => rw [write_of_no_writer hwriter]
  | some n =>
    cases hrefusal : c.config.limits.refusal? f with
    | some e => simp only [write, hwriter, hrefusal]
    | none => rw [write_of_closed hwriter (by simp [Transport.isOpen, hcur]) hrefusal]

lemma send_without_writer (hwriter : c.writer = none) (f : Frame) :
    c.send f = (.error (if c.halted then .halted else .notConnected), c) := by
  cases hhalted : c.halted with
  | true => simp only [send, write_of_no_writer hwriter, hhalted, if_true]
  | false => simp only [send, write_of_no_writer hwriter, hhalted, Bool.false_eq_true, if_false]

lemma send_of_no_writer (hwriter : c.writer = none) (hhalted : c.halted = false) (f : Frame) :
    c.send f = (.error .notConnected, c) := by
  rw [send_without_writer hwriter, hhalted]
  rfl

/-- A send that runs into the writer of a closed link halts the channel. -/
lemma send_of_closed (hwriter : c.writer = some n) (hclosed : c.transport.isOpen n = false)
    (hrefusal : c.config.limits.refusal? f = none) :
    c.send f = (.error (.sendFailed (.io Sink.closedError)), c.failSend) := by
  simp only [send, write_of_closed hwriter hclosed hrefusal]

/-! ### Opening a link in vain -/

lemma establish_refused {rest : List (Except TransportError Unit)}
    (h : c.transport.connects = .error e :: rest) :
    c.establish.1 = .error (.transport e) ∧ c.establish.2.registry = c.registry ∧
      c.establish.2.config = c.config := by
  have hclosing : (c.setState .connecting).noteClosing.transport = c.transport ∧
      (c.setState .connecting).noteClosing.registry = c.registry ∧
      (c.setState .connecting).noteClosing.config = c.config := by
    unfold noteClosing
    split <;> exact ⟨rfl, rfl, rfl⟩
  have hconnects : c.transport.disconnect.connects = .error e :: rest := by
    unfold Transport.disconnect
    split <;> exact h
  have hopen : (c.setState .connecting).openLink.1 = .error e ∧
      (c.setState .connecting).openLink.2.registry = c.registry ∧
      (c.setState .connecting).openLink.2.config = c.config := by
    unfold openLink
    simp only [hclosing.1, Transport.connect, Transport.nextConnect, hconnects]
    exact ⟨trivial, hclosing.2⟩
  unfold establish
  split
  · next e' t ht =>
    rw [ht] at hopen
    obtain ⟨he, hregistry, hconfig⟩ := hopen
    obtain rfl : e' = e := by simpa using he
    exact ⟨rfl, hregistry, hconfig⟩
  · next n t ht => simp [ht] at hopen

/-! ### Sections that write nothing -/

/-- What is done before and after a section without touching the links. -/
lemma Spares.around {c' d d' : Channel} (h : d.Spares d') (before : d.transport = c.transport)
    (sent : d.counters.framesSent = c.counters.framesSent) (after : c'.transport = d'.transport)
    (sent' : c'.counters.framesSent = d'.counters.framesSent) : c.Spares c' :=
  (spares_of_transport before sent).trans (h.trans (spares_of_transport after sent'))

lemma spares_takeDown (c : Channel) : c.Spares c.takeDown :=
  (spares_closeLink c.dropPending).around rfl rfl rfl rfl

lemma spares_disconnect (c : Channel) : c.Spares c.disconnect :=
  (spares_takeDown c).around rfl rfl rfl rfl

lemma spares_start (c : Channel) (n : Nat) : c.Spares (c.start n).2 := by
  unfold start
  split
  · exact spares_of_transport rfl rfl
  · exact spares_of_transport rfl rfl
  · next e rest _ => exact (spares_closeLink { c with spawns := rest }).around rfl rfl rfl rfl

lemma spares_establish (c : Channel) : c.Spares c.establish.2 := by
  have hopen := spares_openLink (c.setState .connecting)
  unfold establish
  split
  · next e t ht =>
    rw [ht] at hopen
    exact hopen.around rfl rfl rfl rfl
  · next m t ht =>
    rw [ht] at hopen
    dsimp only
    split
    · exact hopen.around rfl rfl rfl rfl
    · have hinstalled : c.Spares ((t.install m).setState .connected) :=
        hopen.around rfl rfl rfl rfl
      exact hinstalled.trans (spares_start _ m)

lemma spares_send (hcur : c.transport.current = none) (f : Frame) : c.Spares (c.send f).2 := by
  have hwrite := write_of_no_link hcur f
  unfold send
  split
  · next e t ht =>
    rw [ht] at hwrite
    subst hwrite
    exact (spares_disconnect (t.setHalted true)).around rfl rfl rfl rfl
  · rw [hwrite]
    exact .refl c

/-- Where no link is open, no call writes anything. -/
lemma spares_perform (hcur : c.transport.current = none) (call : Call) :
    c.Spares (c.perform call).2 := by
  cases call with
  | connect => exact (spares_establish (c.setHalted false)).around rfl rfl rfl rfl
  | disconnect => exact spares_disconnect c
  | terminate =>
    exact (spares_takeDown ((c.setHalted true).setState .halting)).around rfl rfl rfl rfl
  | send f => exact spares_send hcur f
  | last | register kind h | unregister kind | relay r => exact spares_of_transport rfl rfl

lemma spares_takeOver (c : Channel) : c.Spares c.takeOver := by
  unfold takeOver
  split
  · exact spares_of_transport rfl rfl
  · exact (spares_closeLink c).around rfl rfl rfl rfl

lemma spares_attempt (c : Channel) (k : Nat) : c.Spares (c.attempt k) := by
  have hopen := spares_openLink (c.setState .connecting)
  unfold attempt
  split
  · exact spares_of_transport rfl rfl
  · split
    all_goals
      next ht =>
      rw [ht] at hopen
      exact hopen.around rfl rfl rfl rfl

lemma spares_retire (c : Channel) : c.Spares c.retire := by
  unfold retire
  split
  · exact spares_of_transport rfl rfl
  · dsimp only
    split <;> exact spares_of_transport rfl rfl

lemma spares_abandon (c : Channel) : c.Spares c.abandon :=
  (spares_closeLink { c.dropPending with receiving := false, receiver := .ended }).around rfl rfl rfl rfl

end Channel

namespace Session

/-- A link is opened. -/
def Opens (s t : Session) : Prop :=
  s.channel.transport.links.length < t.channel.transport.links.length

/-- A call to `terminate` begins, from outside or in a handler or a relay. -/
def Terminates (s t : Session) : Prop :=
  s.caller = .free ∧ t.caller = .stopping ∨
    s.stage.IsOut ∧ t = s.leave (s.channel.perform .terminate).2

/-- A call to `connect`, in a handler or a relay or from outside, comes to an end because the transport
does not connect. -/
inductive Refuses (s : Session) : Session → Prop where
  | callBack {e} (out : s.stage.IsOut) (free : s.caller = .free ∨ s.caller = .joining)
      (refused : s.channel.connect.1 = .error (.transport e)) :
      Refuses s (s.leave (s.channel.perform .connect).2)
  | establish {e} (next : s.caller = .connecting)
      (refused : s.channel.establish.1 = .error (.transport e)) :
      Refuses s { s.leave s.channel.establish.2 with caller := .free }

/-- There is no writer for a send to run into, the channel is not halted, and no send that has failed is
about to halt it. -/
structure Vacant (s : Session) : Prop where
  writer : s.channel.writer = none
  halted : s.channel.halted = false
  calm : s.caller ≠ .failing

variable {s t : Session} {c : Channel}

/-! ### One step -/

/-- Where no link is open nothing is written, and a link that is open then is new. -/
lemma Step.spares (h : Step s t) (hcur : s.channel.transport.current = none) :
    s.channel.Spares t.channel := by
  have hread {n scanner seen o c} (read : s.channel.readOn n scanner seen = (o, c)) :
      s.channel.Spares c := by
    have hspares := Channel.spares_readOn s.channel n scanner seen
    rwa [read] at hspares
  have hsame {c : Channel} (ht : c.transport = s.channel.transport)
      (hk : c.counters.framesSent = s.channel.counters.framesSent) : s.channel.Spares c :=
    Channel.spares_of_transport ht hk
  cases h with
  | call calls =>
    cases calls with
    | short call short free | callBack call out free =>
      rw [channel_leave]
      exact Channel.spares_perform hcur call
    | establish next =>
      change s.channel.Spares (s.leave s.channel.establish.2).channel
      rw [channel_leave]
      exact Channel.spares_establish s.channel
    | send f free done =>
      change s.channel.Spares (s.channel.write f).2
      rw [Channel.write_of_no_link hcur]
      exact .refl _
    | @sendFails f e free fails =>
      change s.channel.Spares (s.channel.write f).2
      rw [Channel.write_of_no_link hcur]
      exact .refl _
    | dropLink next => exact Channel.spares_disconnect _
    | takeDown next => exact Channel.spares_takeDown _
    | clearHalt | haltSend | halt | setHalting | joined | unjoined => exact hsame rfl rfl
  | far hears =>
    cases hears with
    | feed b => exact Channel.Hears.spares (.feed b)
    | endInput => exact Channel.Hears.spares .endInput
    | failRead e => exact Channel.Hears.spares (.failRead e)
  | turn turns =>
    cases turns with
    | blocked idle reads read | broken idle reads read => exact hread read
    | heard idle reads read => exact (hread read).around rfl rfl rfl rfl
    | passed noted => exact Channel.spares_passOn _ _
    | takeOver lost => exact Channel.spares_takeOver _
    | attempt due go => exact Channel.spares_attempt _ _
    | @aborted k n c due none taking opens =>
      have hopen := Channel.spares_openLink (s.channel.setState .connecting)
      rw [opens] at hopen
      exact Channel.Spares.trans (hopen.around rfl rfl rfl rfl) (Channel.spares_closeLink c)
    | retire leaving => exact Channel.spares_retire _
    | handled e out => cases e <;> exact hsame rfl rfl
    | relayed r out => cases r <;> exact hsame rfl rfl
    | abandoned out => exact Channel.spares_abandon _
    | look | giveUp | delayed | halted => exact hsame rfl rfl
  | noted trace notes =>
    subst notes
    exact hsame rfl rfl

/-- Where no link is open and none is opened, none is open. -/
lemma Step.no_link (h : Step s t) (hcur : s.channel.transport.current = none) (hno : ¬ s.Opens t) :
    t.channel.transport.current = none := by
  cases ht : t.channel.transport.current with
  | none => rfl
  | some n =>
    rcases (h.spares hcur).current n ht with hs | ⟨hle, hlt⟩
    · simp [hcur] at hs
    · exact absurd (Nat.lt_of_le_of_lt hle hlt) hno

/-- What is left of a `connect` that opens no link. -/
lemma Established.refused_of {w w' : Wiring} (h : w.Established w')
    (hno : ¬ w.sources.length < w'.sources.length) :
    w' = { w.closed with state := .disconnected } := by
  have hopened : w.opened.sources.length = w.sources.length + 1 := by simp [Wiring.opened]
  cases h with
  | refused => rfl
  | handedOver running | spawned idle => exact absurd (Nat.lt_of_succ_le (Nat.le_of_eq hopened.symm)) hno
  | unspawned idle =>
    have hclosed : w.opened.closed.sources.length = w.sources.length + 1 := by
      rw [Wiring.length_closed, hopened]
    exact absurd (Nat.lt_of_succ_le (Nat.le_of_eq hclosed.symm)) hno

lemma not_opens_wiring (hno : ¬ s.Opens t) :
    ¬ s.channel.wiring.sources.length < t.channel.wiring.sources.length := by
  simpa [Opens, Channel.wiring] using hno

/-- A section that empties the writer's place or leaves it alone, and leaves the halt as it is. -/
lemma Vacant.keep (h : s.Vacant) {w : Wiring} (hw : t.channel.wiring = w)
    (writer : w.writer = s.channel.writer ∨ w.writer = none) (halted : w.halted = s.channel.halted)
    (caller : t.caller = s.caller) : t.Vacant where
  writer := (congrArg Wiring.writer hw).trans (writer.elim (·.trans h.writer) id)
  halted := (congrArg Wiring.halted hw).trans (halted.trans h.halted)
  calm := caller ▸ h.calm

/-- A call leaves the writer's place empty and does not halt the channel, if it opens no link and is
not a `terminate`. -/
lemma Vacant.perform (h : s.Vacant) {call : Call} (hcall : call ≠ .terminate)
    (hno : ¬ s.channel.wiring.sources.length < (s.channel.perform call).2.wiring.sources.length) :
    (s.channel.perform call).2.writer = none ∧ (s.channel.perform call).2.halted = false := by
  cases call with
  | connect =>
    have hw := Established.refused_of (Channel.established (s.channel.setHalted false)) hno
    exact ⟨(congrArg Wiring.writer hw).trans h.writer, congrArg Wiring.halted hw⟩
  | disconnect =>
    have hw := Channel.wiring_disconnect s.channel
    exact ⟨congrArg Wiring.writer hw, (congrArg Wiring.halted hw).trans h.halted⟩
  | terminate => exact absurd rfl hcall
  | send f =>
    change (s.channel.send f).2.writer = none ∧ (s.channel.send f).2.halted = false
    rw [Channel.send_of_no_writer h.writer h.halted]
    exact ⟨h.writer, h.halted⟩
  | last | register kind g | unregister kind | relay r => exact ⟨h.writer, h.halted⟩

lemma Vacant.leave (h : s.Vacant) {call : Call} (hcall : call ≠ .terminate)
    (hno : ¬ s.Opens (s.leave (s.channel.perform call).2)) :
    (s.leave (s.channel.perform call).2).Vacant := by
  have hno' := not_opens_wiring hno
  rw [channel_leave] at hno'
  obtain ⟨hwriter, hhalted⟩ := h.perform hcall hno'
  exact ⟨by rwa [channel_leave], by rwa [channel_leave], by rw [caller_leave]; exact h.calm⟩

lemma Vacant.calls (h : s.Vacant) (hs : s.Sound) (hc : s.Calls t) (hopens : ¬ s.Opens t)
    (hstops : ¬ s.Terminates t) : t.Vacant := by
  have htaking : ¬ s.caller.IsTaking := fun ht => by
    have hhalted : s.channel.halted = true := (Wiring.Sound.shown hs).halted (Or.inl ht)
    simp [h.halted] at hhalted
  cases hc with
  | short call short free => exact h.leave (by rintro rfl; exact short) hopens
  | callBack call out free => exact h.leave (by rintro rfl; exact hstops (Or.inr ⟨out, rfl⟩)) hopens
  | clearHalt free => exact ⟨h.writer, rfl, by simp⟩
  | establish next =>
    have hno := not_opens_wiring hopens
    have hw := Channel.established s.channel
    change ¬ s.channel.wiring.sources.length < (s.leave s.channel.establish.2).channel.wiring.sources.length
      at hno
    rw [channel_leave] at hno
    have hrefused := Established.refused_of hw hno
    refine ⟨?_, ?_, by simp⟩
    · change (s.leave s.channel.establish.2).channel.writer = none
      rw [channel_leave]
      exact (congrArg Wiring.writer hrefused).trans h.writer
    · change (s.leave s.channel.establish.2).channel.halted = false
      rw [channel_leave]
      exact (congrArg Wiring.halted hrefused).trans h.halted
  | send f free done => exact h.keep (Channel.wiring_write s.channel f) (.inl rfl) rfl rfl
  | @sendFails f e free fails => simp [Channel.write_of_no_writer h.writer, h.halted] at fails
  | haltSend next => exact absurd next h.calm
  | dropLink next | setHalting next | takeDown next => exact absurd (by rw [next]; trivial) htaking
  | halt free => exact absurd (Or.inl ⟨free, rfl⟩) hstops
  | joined next ended | unjoined next => exact ⟨h.writer, h.halted, by simp⟩

/-- The receive thread never halts the channel, and fills the writer's place only with a new link. -/
lemma Vacant.turns (h : s.Vacant) (ht : s.Turns t) (hopens : ¬ s.Opens t) : t.Vacant := by
  have hno := not_opens_wiring hopens
  have hopened : s.channel.wiring.opened.sources.length = s.channel.wiring.sources.length + 1 := by
    simp [Wiring.opened]
  cases ht with
  | blocked idle reads read | broken idle reads read =>
    obtain ⟨-, seen', hw⟩ := readOn_reader read
    exact h.keep hw (.inl rfl) rfl rfl
  | @heard m scanner seen c f idle reads read =>
    obtain ⟨-, seen', hw⟩ := readOn_reader read
    have hwriter : c.writer = s.channel.writer := congrArg Wiring.writer hw
    have hhalted : c.halted = s.channel.halted := congrArg Wiring.halted hw
    exact h.keep (Channel.wiring_receive c f) (.inl hwriter) hhalted rfl
  | @passed f noted => exact h.keep (wiring_passOn s.channel f) (.inl rfl) rfl rfl
  | handled e out => exact h.keep (wiring_countHandled s.channel e) (.inl rfl) rfl rfl
  | relayed r out => exact h.keep (Channel.wiring_countRelayed s.channel r) (.inl rfl) rfl rfl
  | look | giveUp | delayed | halted => exact ⟨h.writer, h.halted, h.calm⟩
  | takeOver lost =>
    cases hp : s.channel.pending with
    | some n => exact h.keep (Channel.wiring_takeOver_waiting s.channel hp) (.inl rfl) rfl rfl
    | none => exact h.keep (Channel.wiring_takeOver_lost s.channel hp) (.inr rfl) rfl rfl
  | @attempt k due go =>
    cases hp : s.channel.pending with
    | some n => exact h.keep (Channel.wiring_attempt_waiting s.channel hp) (.inl rfl) rfl rfl
    | none =>
      rcases Channel.wiring_attempt_none (k := k) s.channel hp with hw | hw
      · refine absurd ?_ hno
        change _ < (s.channel.attempt k).wiring.sources.length
        rw [hw]
        exact Nat.lt_of_succ_le (Nat.le_of_eq hopened.symm)
      · exact h.keep hw (.inl rfl) rfl rfl
  | @aborted k n c due none taking opens =>
    refine absurd ?_ hno
    change _ < c.closeLink.wiring.sources.length
    rw [Channel.wiring_aborted _ opens]
    change _ < s.channel.wiring.opened.closed.sources.length
    rw [Wiring.length_closed, hopened]
    exact Nat.lt_succ_self _
  | retire leaving =>
    cases hp : s.channel.pending with
    | some n => exact h.keep (Channel.wiring_retire_waiting s.channel h.halted hp) (.inl rfl) rfl rfl
    | none => exact h.keep (Channel.wiring_retire_none s.channel (Or.inr hp)) (.inl rfl) rfl rfl
  | abandoned out => exact h.keep (Channel.wiring_abandon s.channel) (.inr rfl) rfl rfl

lemma Vacant.step (h : s.Vacant) (hs : s.Sound) (hst : Step s t) (hopens : ¬ s.Opens t)
    (hstops : ¬ s.Terminates t) : t.Vacant := by
  cases hst with
  | call calls => exact h.calls hs calls hopens hstops
  | turn turns => exact h.turns turns hopens
  | far hears => cases hears <;> exact ⟨h.writer, h.halted, h.calm⟩
  | noted trace notes =>
    subst notes
    exact ⟨h.writer, h.halted, h.calm⟩

/-! ### Runs -/

variable {p : Nat → Session} {k m : Nat}

/-- As long as no link is opened, none is open and nothing is written to any. -/
lemma Path.no_link (hp : Path p k) (hopens : ∀ i < k, ¬ (p i).Opens (p (i + 1)))
    (hcur : (p 0).channel.transport.current = none) :
    (p k).channel.transport.current = none ∧ ∀ n,
      ((p k).channel.transport.link n).written = ((p 0).channel.transport.link n).written := by
  induction k with
  | zero => exact ⟨hcur, fun _ => rfl⟩
  | succ k ih =>
    obtain ⟨hnone, hwritten⟩ := ih (fun i hi => hp i (by omega)) fun i hi => hopens i (by omega)
    have hstep := hp k (by omega)
    refine ⟨hstep.no_link hnone (hopens k (by omega)), fun n => ?_⟩
    exact ((hstep.spares hnone).written n).trans (hwritten n)

/-- As long as no link is opened and no call to `terminate` begins, the writer's place stays empty and
the channel is not halted. -/
lemma Vacant.path (h : (p m).Vacant) (hs : (p 0).Sound) (hp : Path p k) (hm : m ≤ k)
    (hopens : ∀ i < k, ¬ (p i).Opens (p (i + 1)))
    (hstops : ∀ i < k, m ≤ i → ¬ (p i).Terminates (p (i + 1))) : (p k).Vacant := by
  induction k, hm using Nat.le_induction with
  | base => exact h
  | succ k hmk ih =>
    have hk : Path p k := fun i hi => hp i (Nat.lt_succ_of_lt hi)
    have hvacant := ih hk (fun i hi => hopens i (Nat.lt_succ_of_lt hi))
      fun i hi => hstops i (Nat.lt_succ_of_lt hi)
    have hlast : k < k + 1 := Nat.lt_succ_self k
    exact hvacant.step (hs.reaches hk.reaches) (hp k hlast) (hopens k hlast) (hstops k hlast hmk)

/-- A `connect` that fails for the transport has closed the link, and left the writer alone. -/
lemma wiring_establish_of_refused {e : TransportError}
    (h : c.establish.1 = .error (.transport e)) :
    c.establish.2.wiring = { c.wiring.closed with state := .disconnected } := by
  unfold Channel.establish at h ⊢
  rcases Channel.openLink_wiring (c.setState .connecting) with ⟨t, ht, hopen⟩ | ⟨e', t, ht, hclosed⟩
  · simp only [ht] at h
    split at h
    · simp at h
    · unfold Channel.start at h
      split at h <;> simp at h
  · simp only [ht, Channel.wiring_setState, hclosed]
    rfl

/-- What a failing `connect` leaves: no link, no halt, and the writer that was there before. -/
lemma Refuses.leaves (h : s.Refuses t) (hs : s.Sound) :
    t.channel.transport.current = none ∧ t.channel.halted = false ∧ t.caller ≠ .failing ∧
      t.channel.writer = s.channel.writer := by
  cases h with
  | callBack out free refused =>
    have hw : (s.channel.perform .connect).2.wiring = _ := wiring_establish_of_refused refused
    rw [channel_leave, caller_leave]
    refine ⟨congrArg Wiring.current hw, congrArg Wiring.halted hw, ?_, congrArg Wiring.writer hw⟩
    rcases free with hfree | hfree <;> simp [hfree]
  | establish next refused =>
    have hw := wiring_establish_of_refused refused
    have hclear : s.channel.halted = false := (Wiring.Sound.shown hs).clear next
    change (s.leave s.channel.establish.2).channel.transport.current = none ∧
      (s.leave s.channel.establish.2).channel.halted = false ∧ _ ∧
      (s.leave s.channel.establish.2).channel.writer = s.channel.writer
    rw [channel_leave]
    exact ⟨congrArg Wiring.current hw, (congrArg Wiring.halted hw).trans hclear, by simp,
      congrArg Wiring.writer hw⟩

lemma Refuses.step (h : s.Refuses t) : Step s t := by
  cases h with
  | callBack out free refused => exact .call (.callBack .connect out free)
  | establish next refused => exact .call (.establish next)

/-- **Behind a failed `connect` a channel without writer is merely not connected.** When a call to
`connect`, from outside or in a handler or a relay, has failed for the transport, then until a link is
opened no link is open and nothing is written, neither up to then nor by a send that is made then. The
channel is not halted by the failure and the writer's place is what it was. From the moment the place is
empty with no failed send on its way to halt the channel (at once, if it was empty before), and until
a call to `terminate` begins, every send says that the channel is not connected and changes nothing; and
the place is empty whenever the channel is at rest. -/
theorem refused_connect_leaves_not_connected (config : ChannelConfig) (name : String)
    (connects : List (Except TransportError Unit)) (writes : List (Except IoError Nat))
    (flushes : List (Except IoError Unit)) (spawns : List (Except IoError Unit))
    (s : Session) (p : Nat → Session) (k : Nat)
    (hrun : (start config name connects writes flushes spawns).Reaches s)
    (hrefused : s.Refuses (p 0)) (hp : Path p k) (hopens : ∀ i < k, ¬ (p i).Opens (p (i + 1))) :
    ((p k).channel.transport.current = none ∧ ∀ n,
      ((p k).channel.transport.link n).written = ((p 0).channel.transport.link n).written ∧
      ∀ f, (((p k).channel.send f).2.transport.link n).written =
        ((p k).channel.transport.link n).written) ∧
    ((p 0).channel.halted = false ∧ (p 0).channel.writer = s.channel.writer ∧
      (s.channel.writer = none → (p 0).Vacant)) ∧
    ((p k).AtRest → (p k).channel.writer = none) ∧
    ∀ m ≤ k, (p m).Vacant → (∀ i < k, m ≤ i → ¬ (p i).Terminates (p (i + 1))) →
      (p k).Vacant ∧ ∀ f, (p k).channel.send f = (.error .notConnected, (p k).channel) := by
  have hs := (sound_start config name connects writes flushes spawns).reaches hrun
  have hs0 := hs.step hrefused.step
  obtain ⟨hcur, hhalted, hcalm, hwriter⟩ := hrefused.leaves hs
  obtain ⟨hnone, hwritten⟩ := hp.no_link hopens hcur
  refine ⟨⟨hnone, fun n => ⟨hwritten n, fun f => (Channel.spares_send hnone f).written n⟩⟩,
    ⟨hhalted, hwriter, fun h => ⟨hwriter.trans h, hhalted, hcalm⟩⟩, fun hrest => ?_,
    fun m hm hvacant hstops => ?_⟩
  · have hconsistent := (hs0.reaches hp.reaches).consistent hrest
    have hdown : (p k).channel.state ≠ .connected := fun hup => hconsistent.link_iff.mp hup hnone
    by_contra hne
    exact hdown (hconsistent.writer_iff.mpr hne)
  · have hk := hvacant.path hs0 hp hm hopens hstops
    exact ⟨hk, Channel.send_of_no_writer hk.writer hk.halted⟩

/-- A frame is sent after a first `connect` has failed. -/
theorem refused_connect_leaves_not_connected_first :
    ∃ (s : Session) (p : Nat → Session), (start {} "far" [.error .closed] [] [] []).Reaches s ∧
      s.Refuses (p 0) ∧ Path p 1 ∧ (∀ i < 1, ¬ (p i).Opens (p (i + 1))) ∧ (p 0).Vacant ∧
      (∀ i < 1, 0 ≤ i → ¬ (p i).Terminates (p (i + 1))) ∧
      ∀ f, (p 1).channel.send f = (.error .notConnected, (p 1).channel) := by
  let s₀ := start {} "far" [.error .closed] [] [] []
  let s : Session := { s₀ with channel := s₀.channel.setHalted false, caller := .connecting }
  let t : Session := { s.leave s.channel.establish.2 with caller := .free }
  let u : Session := { t with channel := (t.channel.write (Frame.empty 0x12)).2 }
  let p : Nat → Session := fun i => if i = 0 then t else u
  have hrun : s₀.Reaches s := .tail .refl (.call (.clearHalt rfl))
  have hrefused : s.Refuses (p 0) := .establish (e := .closed) rfl rfl
  have hwrite : t.channel.write (Frame.empty 0x12) = (.error .notConnected, t.channel) :=
    Channel.write_of_no_writer rfl
  have hp : Path p 1 := fun i hi => by
    obtain rfl : i = 0 := by omega
    exact .call (.send (Frame.empty 0x12) rfl fun e he => by
      rw [show (p 0).channel.write _ = _ from hwrite] at he
      simp at he)
  have hopens : ∀ i < 1, ¬ (p i).Opens (p (i + 1)) := fun i hi => by
    obtain rfl : i = 0 := by omega
    exact Nat.lt_irrefl 0
  have hstops : ∀ i < 1, 0 ≤ i → ¬ (p i).Terminates (p (i + 1)) := fun i hi _ => by
    obtain rfl : i = 0 := by omega
    rintro (⟨-, hc⟩ | ⟨hout, -⟩)
    · exact absurd hc (by simp [p, u, t])
    · exact hout
  obtain ⟨-, ⟨-, -, hempty⟩, -, hlater⟩ := refused_connect_leaves_not_connected {} "far"
    [.error .closed] [] [] [] s p 1 hrun hrefused hp hopens
  have hvacant : (p 0).Vacant := hempty rfl
  exact ⟨s, p, hrun, hrefused, hp, hopens, hvacant, hstops,
    (hlater 0 (Nat.zero_le 1) hvacant hstops).2⟩

/-- It is not so that every send behind a failed `connect` only says that the channel is not
connected: one that is made for a frame of the closed link halts the channel. -/
theorem send_halts_behind_refused_connect :
    ¬ ∀ (config : ChannelConfig) (name : String) (connects : List (Except TransportError Unit))
      (writes : List (Except IoError Nat)) (flushes : List (Except IoError Unit))
      (spawns : List (Except IoError Unit)) (s : Session) (p : Nat → Session) (k : Nat),
      (start config name connects writes flushes spawns).Reaches s → s.Refuses (p 0) → Path p k →
      (∀ i < k, ¬ (p i).Opens (p (i + 1))) → (∀ i < k, ¬ (p i).Terminates (p (i + 1))) →
      ∀ f, (p k).channel.send f = (.error .notConnected, (p k).channel) := by
  intro hall
  let g := Frame.empty 0x13
  obtain ⟨s, hrun, hstage, hcaller, -, hreads, hroute, hconnects, hcur, hwriter, -, -, hconfig⟩ :=
    reaches_two_frames [.error .closed] (fun _ => .call .connect fun _ => .done)
      (fun _ => .call (.send g) fun _ => .done)
  obtain ⟨hrefused, hregistry, hconfig₀⟩ :=
    Channel.establish_refused (c := s.channel.setHalted false) hconnects
  have hw := wiring_establish_of_refused hrefused
  let s₀ := s.leave (s.channel.perform .connect).2
  have hchannel : s₀.channel = (s.channel.setHalted false).establish.2 := channel_leave s _
  have hstage₀ : s₀.stage = .handling := (stage_leave s _).trans hstage
  have hcaller₀ : s₀.caller = .free := (caller_leave s _).trans hcaller
  have hreads₀ : s₀.channel.receiver =
      .reading 0 ⟨{}, g.wire, { frames := 1 }⟩ { frames := 1 } := by
    rw [hchannel, ← hreads]
    exact congrArg Wiring.receiver hw
  have hroute₀ : s₀.channel.registry.route g.kind =
      .handler (.raw fun _ => .call (.send g) fun _ => .done) := by
    rw [hchannel, hregistry]
    exact hroute
  have hnext : (⟨{}, g.wire, { frames := 1 }⟩ : Scanner).next = (some g, ⟨{}, [], { frames := 2 }⟩) := by
    decide
  obtain ⟨p, h0, hp, hcallers, h₁, h₂, -, -, hlength, hcurrent₃, hwriter₃, hhalted₃, hconfig₃⟩ :=
    exists_next_handling hstage₀ hreads₀ hnext hroute₀ rfl
  have hfails := hall {} "far" [.ok (), .error .closed] [] [] [] s p 3 hrun
    (h0 ▸ .callBack (by rw [hstage]; trivial) (Or.inl hcaller) hrefused) hp
    (fun i _ => by simp [Opens, hlength]) (fun i hi => by
      rintro (⟨-, hc⟩ | hback)
      · simp [hcallers, hcaller₀] at hc
      · exact not_out_of_next_handling (h0 ▸ hstage₀) h₁ h₂ i hi _ hback) g
  -- the writer of the closed link is still in its place
  have hstale : (p 3).channel.writer = some 0 := by
    rw [hwriter₃, hchannel]
    exact (congrArg Wiring.writer hw).trans hwriter
  have hclosed : (p 3).channel.transport.isOpen 0 = false := by
    have hnone : (p 3).channel.transport.current = none := by
      rw [hcurrent₃, hchannel]
      exact congrArg Wiring.current hw
    simp [Transport.isOpen, hnone]
  have hrefusal : (p 3).channel.config.limits.refusal? g = none := by
    rw [hconfig₃, hchannel, hconfig₀]
    change s.channel.config.limits.refusal? g = none
    rw [hconfig]
    decide
  rw [Channel.send_of_closed hstale hclosed hrefusal] at hfails
  simp at hfails

end Session

end FrameLink
