import FrameLink.Proofs.Channel.Refused
import FrameLink.Proofs.Stream.Deeds

/-!
What a send comes to, and what it leaves as it was.

Without a writer nothing is looked at but the halt, and a frame that is refused has made no call on the
link. Only a call that was made and has failed takes the channel down; and only when none has failed the
frame is counted. In each case the whole channel behind the send is told, and with it all that the send
has left alone.
-/

namespace FrameLink

namespace Channel

variable {c : Channel} {n : Nat} {f : Frame} {e : FrameError}

/-- The calls that a frame makes on the link it is written to. -/
def deeds (c : Channel) (n : Nat) (f : Frame) : List Deed :=
  Writer.deeds c.config.limits (c.transport.sink n) f

/-- The channel after a link took bytes; nothing else is changed, and a frame may be counted. -/
def carried (c : Channel) (n : Nat) (sink : Sink) (frames : Nat) : Channel :=
  { c with
    transport := c.transport.absorb n sink
    counters := { c.counters with framesSent := c.counters.framesSent + frames }
    trace := c.trace ++ sink.pieces.map (Event.wrote c.transport.name n) }

/-- The channel halted and down, whatever link was open and whatever was waiting. -/
def cutOff (c : Channel) : Channel :=
  { c with
    transport := c.transport.disconnect
    pending := none, writer := none, state := .disconnected, halted := true
    trace := c.trace ++ c.closing }

lemma failSend_eq (c : Channel) : c.failSend = c.cutOff := by
  simp only [failSend, disconnect, takeDown, closeLink_eq]
  rfl

lemma sent_ok (c : Channel) (n : Nat) (s : Sink) : c.sent n (.ok (), s) = (.ok (), c.carried n s 1) := rfl

lemma sent_error (c : Channel) (n : Nat) (s : Sink) (e : FrameError) :
    c.sent n (.error e, s) = (.error (.sendFailed e), (c.carried n s 0).cutOff) := by
  rw [sent, failSend_eq]
  rfl

/-! ### Outcomes -/

lemma send_refused (hwriter : c.writer = some n) (hrefusal : c.config.limits.refusal? f = some e) :
    c.send f = (.error (.frame e), c) := by
  simp only [send, write, hwriter, hrefusal]

/-- How writing the frame comes out is how its calls come out. -/
lemma outcome_deeds (hrefusal : c.config.limits.refusal? f = none) :
    Deed.outcome (c.deeds n f) = (Writer.writeFrame c.config.limits (c.transport.sink n) f).1 :=
  (Writer.deeds_delivered hrefusal).outcome_eq

/-- A frame that is not refused is sent by its calls: they decide the outcome, and what the link has. -/
lemma send_of_deeds (hwriter : c.writer = some n) (hrefusal : c.config.limits.refusal? f = none) :
    ∃ sink, (c.transport.sink n).After (c.deeds n f) sink ∧
      c.send f = c.sent n (Deed.outcome (c.deeds n f), sink) := by
  refine ⟨_, Sink.after_writeFrame c.config.limits (c.transport.sink n) f, ?_⟩
  rw [send_of_writer hwriter hrefusal, outcome_deeds hrefusal]

/-- A send that goes well goes to the open link. -/
lemma isOpen_of_send (hwriter : c.writer = some n) (hrefusal : c.config.limits.refusal? f = none)
    (hwell : (c.send f).1 = .ok ()) : c.transport.isOpen n = true := by
  by_contra hclosed
  rw [send_of_closed hwriter (Bool.not_eq_true _ ▸ hclosed) hrefusal] at hwell
  simp at hwell

end Channel

namespace Session

/-- **What a send comes to.** At any point of a run, without a writer a send says that the channel is
halted, or else not connected, whatever the frame is, and changes nothing. A frame with too long a
payload or, failing that, a stale checksum is refused, and nothing is changed. When a call on the link
fails, the send fails with that: the link has a front of the wire form, the channel is halted and down,
and the frame is not counted. Otherwise the open link has the wire form, the frame is counted, and
nothing else is changed. -/
theorem send_comes_to (config : ChannelConfig) (name : String)
    (connects : List (Except TransportError Unit)) (writes : List (Except IoError Nat))
    (flushes : List (Except IoError Unit)) (spawns : List (Except IoError Unit)) {s : Session}
    (hr : (start config name connects writes flushes spawns).Reaches s) (f : Frame) :
    let c := s.channel
    let limit := c.config.limits.payload
    (c.writer = none → c.send f = (.error (if c.halted then .halted else .notConnected), c)) ∧
    ∀ n, c.writer = some n →
      (limit < f.payload.length →
        c.send f = (.error (.frame (.payloadTooLarge f.payload.length limit)), c)) ∧
      (f.payload.length ≤ limit → ¬ f.IsValid →
        c.send f = (.error (.frame (.staleChecksum f.kind)), c)) ∧
      (f.payload.length ≤ limit → f.IsValid →
        (∀ e, (c.deeds n f).findSome? Deed.failure? = some e →
          ∃ sink : Sink, sink.accepted <+: f.wire ∧
            sink.writes <:+ c.transport.writes ∧ sink.flushes <:+ c.transport.flushes ∧
            c.send f = (.error (.sendFailed e), (c.carried n sink 0).cutOff) ∧
            (c.send f).2.transport.current = none) ∧
        ((c.deeds n f).findSome? Deed.failure? = none →
          c.transport.current = some n ∧ n < c.transport.links.length ∧
          ∃ sink : Sink, sink.accepted = f.wire ∧
            sink.writes <:+ c.transport.writes ∧ sink.flushes <:+ c.transport.flushes ∧
            c.send f = (.ok (), c.carried n sink 1))) := by
  intro c limit
  refine ⟨fun hno => ?_, fun n hwriter => ⟨fun hlong => ?_, fun hfits hstale => ?_, fun hfits hvalid =>
    ⟨fun e hfails => ?_, fun hwell => ?_⟩⟩⟩
  · exact Channel.send_without_writer hno f
  · exact Channel.send_refused hwriter (Limits.refusal?_of_tooLarge hlong)
  · exact Channel.send_refused hwriter (Limits.refusal?_of_stale hfits hstale)
  · have haccepts := Limits.refusal?_of_fits hfits hvalid
    obtain ⟨sink, hafter, hsend⟩ := Channel.send_of_deeds hwriter haccepts
    have hdelivered := Writer.deeds_delivered (s := c.transport.sink n) haccepts
    rw [Deed.outcome_eq_error_iff.mpr hfails, Channel.sent_error] at hsend
    refine ⟨sink, ?_, hafter.writes, hafter.flushes, hsend, ?_⟩
    · rw [hafter.accepted]
      exact hdelivered.taken_prefix
    · rw [hsend]
      exact Transport.current_disconnect _
  · have haccepts := Limits.refusal?_of_fits hfits hvalid
    obtain ⟨sink, hafter, hsend⟩ := Channel.send_of_deeds hwriter haccepts
    have hdelivered := Writer.deeds_delivered (s := c.transport.sink n) haccepts
    have houtcome : Deed.outcome (c.deeds n f) = .ok () := by rw [Deed.outcome, hwell]; rfl
    have hsound : s.Sound := (sound_start config name connects writes flushes spawns).reaches hr
    rw [houtcome, Channel.sent_ok] at hsend
    have hcurrent : c.transport.current = some n := by
      simpa [Transport.isOpen] using Channel.isOpen_of_send hwriter haccepts (congrArg Prod.fst hsend)
    refine ⟨hcurrent, ?_, sink, ?_, hafter.writes, hafter.flushes, hsend⟩
    · simpa [Channel.wiring] using hsound.ordered.current_lt n hcurrent
    · rw [hafter.accepted]
      exact (hdelivered.ok_iff.mp (hdelivered.outcome_eq ▸ houtcome)).1

/-- Before a first `connect` a send has no writer; behind it a frame is refused, another is taken whole
and counted, and with another script it is taken whole and not flushed. -/
theorem send_comes_to_after_connect :
    let broken : IoError := ⟨.brokenPipe, "broken"⟩
    let fresh (flushes : List (Except IoError Unit)) :=
      start { limits := { maxPayloadSize := 1 } } "far" [] [] flushes []
    let clear (s : Session) : Session :=
      { s with channel := s.channel.setHalted false, caller := .connecting }
    let connected (s : Session) : Session := { (clear s).leave (clear s).channel.establish.2 with caller := .free }
    let s := fresh []
    let t := connected s
    let u := connected (fresh [.error broken])
    let f := Frame.empty Kind.shutDown
    let long : Frame := ⟨Kind.shutDown, [1, 2], 0, by decide⟩
    s.Reaches t ∧ (fresh [.error broken]).Reaches u ∧
    s.channel.send long = (.error .notConnected, s.channel) ∧
    t.channel.send long = (.error (.frame (.payloadTooLarge 2 1)), t.channel) ∧
    (∃ sink : Sink, sink.accepted = f.wire ∧ t.channel.send f = (.ok (), t.channel.carried 0 sink 1)) ∧
    ∃ sink : Sink, u.channel.send f =
      (.error (.sendFailed (.io broken)), (u.channel.carried 0 sink 0).cutOff) := by
  intro broken fresh clear connected s t u f long
  have hconnects (flushes : List (Except IoError Unit)) :
      (fresh flushes).Reaches (connected (fresh flushes)) :=
    .tail (.tail .refl (.call (.clearHalt rfl))) (.call (.establish rfl))
  -- the link takes the wire form in one piece, and then the flush goes by its script
  have hall (flushes : List (Except IoError Unit)) :
      Writer.writeAll ({ sink := { flushes } } : Recorder Sink) f.wire =
        (.ok (), ⟨{ flushes, pieces := [f.wire] }, [.write f.wire (.ok 6)]⟩) := by
    rw [Writer.writeAll_put (n := 5), show f.wire.drop (5 + 1) = [] by decide, Writer.writeAll_nil]
    all_goals first | rfl | decide
  have hflushed : t.channel.deeds 0 f = [.write f.wire (.ok 6), .flush (.ok ())] := by
    have hcalls : t.channel.deeds 0 f = _ :=
      Writer.deeds_flushed (l := t.channel.config.limits) (by decide) (hall [])
    rw [hcalls, Writer.flush_done rfl]
    rfl
  have hbroken : u.channel.deeds 0 f = [.write f.wire (.ok 6), .flush (.error broken)] := by
    have hcalls : u.channel.deeds 0 f = _ :=
      Writer.deeds_flushed (l := u.channel.config.limits) (by decide) (hall [.error broken])
    rw [hcalls, Writer.flush_failed rfl (by decide)]
    rfl
  obtain ⟨hunwritten, -⟩ := send_comes_to _ _ _ _ _ _ (.refl (s := s)) long
  obtain ⟨hlong, -, -⟩ := (send_comes_to _ _ _ _ _ _ (hconnects []) long).2 0 rfl
  obtain ⟨-, -, hwell⟩ := (send_comes_to _ _ _ _ _ _ (hconnects []) f).2 0 rfl
  obtain ⟨-, -, hfails⟩ := (send_comes_to _ _ _ _ _ _ (hconnects [.error broken]) f).2 0 rfl
  obtain ⟨-, -, sink, htaken, -, -, hsent⟩ := (hwell (by decide) (by decide)).2 (by rw [hflushed]; rfl)
  obtain ⟨sink', -, -, -, hfailed, -⟩ :=
    (hfails (by decide) (by decide)).1 (.io broken) (by rw [hbroken]; rfl)
  exact ⟨hconnects [], hconnects [.error broken], hunwritten rfl, hlong (by decide), ⟨sink, htaken, hsent⟩,
    sink', hfailed⟩

end Session

end FrameLink
