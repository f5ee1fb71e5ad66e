import FrameLink.Proofs.Channel.Errand
import FrameLink.Proofs.Channel.Shelter

/-!
Relaying is transparent.

Frame by frame, the relay sends out the bytes that have come in. Where that fails, the failure is counted,
and leaves nothing else behind on the channel that the frame came in on. A call that no one stands in the
way of comes back, with what a send of the frame in one piece comes to.
-/

namespace FrameLink

/-- A send goes well on a link that takes at least something of all that it is offered. -/
lemma Channel.send_of_willing {c : Channel} {f : Frame} {n : Nat} (writer : c.writer = some n)
    (accepts : c.config.limits.refusal? f = none) (willing : (c.transport.sink n).IsWilling) :
    (c.send f).1 = .ok () := by
  have hdone := (Writer.writeFrame_puts willing accepts).done
  rw [send_of_writer writer accepts]
  rcases hw : Writer.writeFrame c.config.limits (c.transport.sink n) f with ⟨_ | _, s⟩
  · rw [hw] at hdone
    cases hdone
  · rfl

namespace Net

variable {a b : Nat} {l : Limits} {n m : Net} {i : Nat} {t : Traffic} {who : Party} {p q : Point}
  {next : Next} {s : Shared} {f : Frame} {hop : Hop} {d d' : Duty} {c : Channel}

/-- The call for the hop goes on, and everyone else stands still. -/
lemma runs_works {u : Traffic} (out : n.hop = some hop)
    (solo : Traffic.Solo (seat a b) (n.traffic b) u) :
    ∃ hop' : Hop, hop'.frame = hop.frame ∧ n.Runs a b { n.put b u with hop := some hop' } := by
  induction solo with
  | refl =>
    refine ⟨hop, rfl, ?_⟩
    have hsame : ({ n.put b (n.traffic b) with hop := some hop } : Net) = n := by
      rw [← out, put, Function.update_eq_self]
    rw [hsame]
    exact .refl
  | @tail v _ _ hs ih =>
    obtain ⟨hop', hframe, run⟩ := ih
    obtain @⟨p, next, s, here, acts⟩ := hs
    have hself : ({ n.put b v with hop := some hop' } : Net).traffic b = v := traffic_put_self
    refine ⟨hop'.work v.channel p next s.channel, hframe, ?_⟩
    have hstep := Step.works (a := a) (n := { n.put b v with hop := some hop' }) rfl
      (hself.symm ▸ here) (hself.symm ▸ acts)
    rw [hself] at hstep
    refine run.tail ?_
    rw [← put_put (t := v) (u := v.after (seat a b) next s)]
    exact hstep

/-- The frame that is with the relay makes its hop. On the second channel that comes to what a send of
the frame does, and the first channel counts what the send comes back with. -/
structure Completes (a b : Nat) (n m : Net) (f : Frame) (hop : Hop) : Prop where
  run : n.Runs a b m
  frame : hop.frame = f
  idle : m.hop = none
  hops : m.hops = n.hops ++ [(hop, ((n.traffic b).channel.send f).1)]
  channel : a ≠ b → (m.traffic b).channel = ((n.traffic b).channel.send f).2
  relay : (m.traffic a).channel =
    (if a = b then ((n.traffic b).channel.send f).2 else (n.traffic a).channel).countRelayed
      ((n.traffic b).channel.send f).1

/-- A hop is made from begin to end when no one else has a lock of the second channel. -/
lemma exists_completes (idle : n.hop = none) (duty : (n.traffic a).duty = .relaying f .free)
    (alone : (n.traffic b).Alone (seat a b)) : ∃ m hop, Completes a b n m f hop := by
  let r := ((n.traffic b).channel.send f).1
  let c := ((n.traffic b).channel.send f).2
  -- the relay takes its seat
  let t := (n.traffic b).after (seat a b) (.on (.send f .begun)) (n.traffic b).toShared
  let n' : Net := { n.put b t with hop := some { frame := f } }
  have hhands : n.Step a b n' := .hands idle duty alone.here
  have hseat : n'.traffic b = t := traffic_put_self
  -- the call goes through its sections
  let u := (n.traffic b).after (seat a b) (.back (.send f) (.ofExcept r))
    { (n.traffic b).toShared with channel := c }
  have hsolo : Traffic.Solo (seat a b) (n'.traffic b) u := hseat ▸ alone.sending f
  obtain ⟨hop, hframe, hworks⟩ := runs_works (n := n') rfl hsolo
  change n'.Runs a b { (n.put b t).put b u with hop := some hop } at hworks
  rw [put_put] at hworks
  -- and the relay comes back
  let n'' : Net := { n.put b u with hop := some hop }
  have hseat' : n''.traffic b = u := traffic_put_self
  have hduty : (n''.traffic a).duty = .relaying f .free := by
    have hduty := relaying_seat (b := b) (.back (.send f) (.ofExcept r))
      { (n.traffic b).toShared with channel := c } duty
    simpa [Next.point] using hduty
  have hfree : (n''.traffic b).point (seat a b) = some .free := by
    rw [hseat']
    exact alone.point_after
  have hreply : ((n''.traffic b).made (seat a b)).getLast? = some (.send f, .ofExcept r) := by
    rw [hseat']
    exact Hop.getLast?_made_after
  have hreturns := Step.returns rfl hduty hfree hreply
  refine ⟨_, hop, (hworks.head hhands).tail hreturns, hframe, rfl, rfl, fun hab => ?_, ?_⟩
  · change ((n''.put a _).traffic b).channel = _
    rw [traffic_put_other hab.symm, hseat']
    rfl
  · have hchannel : (n''.traffic a).channel = if a = b then c else (n.traffic a).channel := by
      by_cases hab : a = b
      · subst hab
        rw [if_pos rfl, hseat']
        rfl
      · rw [if_neg hab]
        exact congrArg (·.channel) (traffic_put_other hab)
    change ((n''.put a _).traffic a).channel = _
    rw [traffic_put_self]
    exact congrArg (·.countRelayed r) hchannel

/-- What it comes to that the first channel relays to the second. -/
structure Transparent (a b : Nat) (n₀ n : Net) : Prop where
  /-- What the thread has read is the encodings of the frames it has found, each on one link, with gaps
  between them and more behind them. -/
  read : ∃ rest, n.log.Cut rest
  /-- The frames found are passed on one after the other; the last may still have to be. -/
  looked : n.log.found.map (·.2) = n.log.routed.map (·.1) ++ (n.traffic a).duty.noted.toList
  /-- Those whose kind no handler takes make their hops one after the other, once there is a relay; the
  last may be at it. -/
  handed : n.log.routed.filterMap relayedFrame =
    n.hops.map (·.1.frame) ++ (n.traffic a).duty.inHand.toList
  aimed : ∀ x ∈ n.log.routed, ∀ r, x.2.relay = some r → r = .channel b
  fares : ∀ x ∈ n.hops, x.1.Fares (n.traffic b).channel.config.limits x.2
  /-- With a writer, a payload that fits and a link that balks at nothing, the hop has gone well, and all
  that has come to the link from when the writer was looked at is the encoding of the frame. -/
  through : ∀ x ∈ n.hops, ∀ c k, x.1.seen = some c → c.writer = some k →
    x.1.frame.payload.length ≤ (n.traffic b).channel.config.limits.payload → x.1.balked = false →
      x.2 = .ok () ∧ ∃ d, x.1.left = some d ∧
        (d.transport.link k).written = (c.transport.link k).written ++ x.1.frame.wire
  /-- Without a writer to an open link, with a payload that does not fit or a link that balks, it fails. -/
  fails : ∀ x ∈ n.hops, ∀ c, x.1.seen = some c →
    ((∀ k, c.writer = some k → c.transport.current ≠ some k) ∨
      (n.traffic b).channel.config.limits.payload < x.1.frame.payload.length ∨ x.1.balked = true) →
        x.2.isOk = false
  fresh : ∀ x ∈ n.hops, ∀ kind, x.2 ≠ .error (.frame (.staleChecksum kind))
  relayed : (n.traffic a).channel.counters.relayed = n.hops.countP (·.2.isOk)
  relayFailures : (n.traffic a).channel.counters.relayFailures = n.hops.countP (!·.2.isOk)
  /-- But for the two counts, the first channel could be where it is with all hops gone well. -/
  apart : a ≠ b → Relation.ReflTransGen Served (n₀.traffic a, {})
    ((n.traffic a).tolled n.hops.length 0, n.log)
  /-- A link that takes at least something of all that it is offered takes the frame in hand. -/
  willing : ∀ f q k, (n.traffic a).duty = .relaying f q → (n.traffic b).channel.writer = some k →
    f.payload.length ≤ (n.traffic b).channel.config.limits.payload →
      ((n.traffic b).channel.transport.sink k).IsWilling → ((n.traffic b).channel.send f).1 = .ok ()
  completes : ∀ f, n.hop = none → (n.traffic a).duty = .relaying f .free →
    (n.traffic b).Alone (seat a b) → ∃ m hop, Completes a b n m f hop

/-- **Relaying is transparent, byte for byte.** Take any run of new channels with any configs, in which
anyone makes calls on any of them and the far ends send what they will, and two of them, or one taken
twice, of which the first has no relay but a sender of the second. The frames that the first one
finds in what it reads are passed on in order, and those that no handler takes are sent through the
second in order. If that has a writer, the payload is within its limit, and its link takes the writes and
the flush, then the link has more by the very bytes that the frame had in what was read. If it has no
writer, as it is not connected or halted, or the frame is too long for it, or its link balks, the send
comes back with an error. It does so never for a stale checksum. The first channel counts the one as
relayed and the other as a failure; and unless it is the second one as well, nothing else on it depends on
how the frames have fared. -/
theorem relays_byte_for_byte (a b : Nat) (n₀ n : Net) (new : n₀.IsNew) (run : n₀.Runs a b n) :
    Transparent a b n₀ n := by
  have h := (new.kept a b).runs run
  have hfares : ∀ x ∈ n.hops, x.1.Fares (n.traffic b).channel.config.limits x.2 := by
    rw [h.limits]
    exact h.account.fares
  have hnew : n₀.served a = (n₀.traffic a, {}) := by
    obtain ⟨_, _, _, _, _, _, hstart⟩ := new.fresh a
    rw [served, new.hops, new.log, hstart]
    rfl
  obtain ⟨rest, hcut, -⟩ := h.account.follows.cut
  exact {
    read := ⟨rest, hcut⟩
    looked := h.account.follows.looked
    handed := h.account.handed
    aimed := h.account.aimed
    fares := hfares
    through := fun x hx c k => (hfares x hx).done
    fails := fun x hx c => (hfares x hx).not_done
    fresh := fun x hx => (hfares x hx).not_stale
    relayed := h.account.relayed
    relayFailures := h.account.relayFailures
    apart := fun hab => hnew ▸ run.served hab
    willing := fun f q k duty writer fits => Channel.send_of_willing writer
      (Limits.refusal?_of_fits fits (h.account.valid duty))
    completes := fun f idle duty alone => exists_completes idle duty alone }

/-! ### A frame on its way from one channel to another -/

/-- A party that makes no calls for the relay goes on with its own, and everyone else stands still. -/
lemma runs_solo {u : Traffic} (own : ∀ m : Net, ¬ m.Bound a b i who) (here : n.traffic i = t)
    (solo : Traffic.Solo who t u) : n.Runs a b (n.put i u) := by
  subst here
  induction solo with
  | refl =>
    rw [put, Function.update_eq_self]
    exact .refl
  | @tail v _ _ hs ih =>
    obtain @⟨p, next, s, here, acts⟩ := hs
    have hself : (n.put i v).traffic i = v := traffic_put_self
    have hstep := Step.acts (own (n.put i v)) (hself.symm ▸ here) (hself.symm ▸ acts)
    rw [hself, put_put] at hstep
    exact ih.tail hstep

/-- A caller has connected. -/
def connected (t : Traffic) (threads held : Nat) : Traffic :=
  t.after (.caller 1) (.back .connect (t.channel.perform .connect).1)
    { channel := (t.channel.perform .connect).2, threads, held }

lemma runs_connected (alone : (n.traffic i).Alone (.caller 1)) :
    ∃ threads held, n.Runs a b (n.put i (connected (n.traffic i) threads held)) := by
  have hown (m : Net) : ¬ m.Bound a b i (.caller 1) := by
    rintro (⟨-, h, -⟩ | ⟨-, -, h⟩) <;> cases h
  obtain ⟨threads, held, hsolo⟩ := alone.connecting
  have hbegins := Step.begins (hown n) (fun _ r hr => by cases hr) alone.here .connect
  have hacts := runs_solo (a := a) (b := b) hown (traffic_put_self (n := n)) hsolo
  rw [put_put] at hacts
  exact ⟨threads, held, hacts.head hbegins⟩

/-- A frame without payload comes in on the first channel, and goes out through the second. -/
theorem relays_byte_for_byte_one_frame :
    ∃ n₀ n hop, n₀.IsNew ∧ n₀.Runs 0 1 n ∧ hop.frame = Frame.empty 0x12 ∧ n.hops = [(hop, .ok ())] ∧
      Transparent 0 1 n₀ n := by
  let f := Frame.empty 0x12
  let t : Traffic := .start {} "far" [] [] [] []
  let n₀ : Net := { traffic := fun _ => t }
  have hnew : n₀.IsNew := ⟨fun _ => ⟨_, _, _, _, _, _, rfl⟩, rfl, rfl, rfl⟩
  have hquiet : t.Quiet := Traffic.start_quiet {} "far" [] [] [] []
  have halone : t.Alone (.caller 1) := ⟨rfl, hquiet.apart _, id⟩
  -- both channels are connected
  obtain ⟨threads, held, hfirst⟩ := runs_connected (n := n₀) (i := 0) (a := 0) (b := 1) halone
  let x := connected t threads held
  let n₁ := n₀.put 0 x
  obtain ⟨threads', held', hsecond⟩ := runs_connected (n := n₁) (i := 1) (a := 0) (b := 1) halone
  let y := connected t threads' held'
  let n₂ := n₁.put 1 y
  -- the second one is made the relay of the first one
  let x' := x.after (.caller 1) (.back (.relay (some (.channel 1))) .done)
    { x.toShared with channel := x.channel.setRelay (some (.channel 1)) }
  let n₃ := n₂.put 0 x'
  have hrelay : n₂.Step 0 1 n₃ := by
    refine .begins (i := 0) ?_ (fun _ r hr => ?_) rfl
      (.brief (.relay (some (.channel 1))) trivial)
    · rintro (⟨-, h, -⟩ | ⟨-, h, -⟩) <;> cases h
    · obtain rfl : Relay.channel 1 = r := by simpa using hr
      rfl
  -- the frame comes in and is found
  let x'' : Traffic := { x' with channel := { x'.channel with
    transport := x'.channel.transport.feed f.wire } }
  let n₄ := n₃.put 0 x''
  have hfed : n₃.Step 0 1 n₄ := .hears (.feed f.wire)
  have hnext : ((Scanner.fresh {}).push f.wire).next = (some f, ⟨{}, [], { frames := 1 }⟩) := by
    decide
  have hread : Reader.readFrame ⟨Scanner.fresh {}, (x''.channel.transport.link 0).inbound⟩ = _ :=
    (Reader.readFrame_bytes (b := f.wire) rfl rfl (by decide)).1.trans
      (Reader.readFrame_found hnext).1
  have hheard := Step.turns (a := 0) (b := 1) (n := n₄) (i := 0) (fun _ => rfl) rfl
    (.heard rfl (Channel.readOn_of_found x''.channel hread))
  generalize hn₅ : ({ n₄.put 0 _ with log := _ } : Net) = n₅ at hheard
  have hpassing : (n₅.traffic 0).duty = .passing f := by
    rw [← hn₅]
    rfl
  have hpassed := Step.turns (a := 0) (b := 1) (i := 0) (fun _ => rfl) hpassing .passed
  generalize hn₆ : ({ n₅.put 0 _ with log := _ } : Net) = n₆ at hpassed
  -- the relay gets it out
  have hduty : (n₆.traffic 0).duty = .relaying f .free := by
    rw [← hn₆, ← hn₅]
    rfl
  have hy : n₆.traffic 1 = y := by
    rw [← hn₆, ← hn₅]
    rfl
  have hidle : n₆.hop = none := by
    rw [← hn₆, ← hn₅]
    rfl
  have hnone : n₆.hops = [] := by
    rw [← hn₆, ← hn₅]
    rfl
  have hfree : y.Quiet := hquiet.after id id
  have hseat : y.Alone (seat 0 1) := ⟨rfl, hfree.apart _, id⟩
  obtain ⟨n, hop, hdone⟩ := exists_completes hidle hduty (hy ▸ hseat)
  have hsent : ((n₆.traffic 1).channel.send f).1 = .ok () := by
    rw [hy]
    exact Channel.send_of_willing (n := 0) rfl (by rfl)
      ⟨rfl, fun _ hx => absurd hx List.not_mem_nil, fun _ hx => absurd hx List.not_mem_nil⟩
  have hrun : n₀.Runs 0 1 n :=
    (((((hfirst.trans hsecond).tail hrelay).tail hfed).tail hheard).tail hpassed).trans hdone.run
  refine ⟨n₀, n, hop, hnew, hrun, hdone.frame, ?_, relays_byte_for_byte 0 1 n₀ n hnew hrun⟩
  rw [hdone.hops, hnone, hsent]
  rfl

end Net

end FrameLink
