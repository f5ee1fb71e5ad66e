import FrameLink.Proofs.Stream.InPlace
import FrameLink.Transport.Datagram

/-!
Frames that go out as datagrams.

A flush hands what was collected to the socket and forgets it, whatever the socket makes of it. So every
datagram is one frame, and what became of an earlier one makes no difference. It also means that a flush
which is repeated after an interruption has nothing left to hand over, and goes well.
-/

namespace FrameLink

namespace BufferedWriter

variable {σ : Type} [ByteSink σ]

/-- Writes one frame after the other; each call has its own result. -/
def writeEach : BufferedWriter σ → List Frame → List (Except FrameError Unit) × BufferedWriter σ
  | w, [] => ([], w)
  | w, f :: fs =>
    ((w.writeFrame f).1 :: ((w.writeFrame f).2.writeEach fs).1, ((w.writeFrame f).2.writeEach fs).2)

@[simp] lemma limits_writeFrame (w : BufferedWriter σ) (f : Frame) :
    (w.writeFrame f).2.limits = w.limits := by
  rcases Nat.lt_or_ge w.limits.payload f.payload.length with hlong | hfits
  · rw [writeFrame_tooLarge hlong]
  · by_cases hvalid : f.IsValid
    · rw [writeFrame_fits hfits hvalid]
    · rw [writeFrame_stale hfits hvalid]

@[simp] lemma limits_writeEach (w : BufferedWriter σ) (fs : List Frame) :
    (w.writeEach fs).2.limits = w.limits := by
  induction fs generalizing w with
  | nil => rfl
  | cons f fs ih => exact (ih _).trans (limits_writeFrame w f)

/-- What writing no frame undoes, writing one after the other does not. -/
lemma writeEach_keeps {P : σ → Prop} (step : ∀ l s f, P s → P (Writer.writeFrame l s f).2)
    {w : BufferedWriter σ} (h : P w.sink) (fs : List Frame) : P (w.writeEach fs).2.sink := by
  induction fs generalizing w with
  | nil => exact h
  | cons f fs ih =>
    refine ih ?_
    rw [(writeFrame_eq w f).2]
    exact step w.limits w.sink f h

end BufferedWriter

namespace Writer

variable {σ : Type} [ByteSink σ] {s s' : σ} {b : Bytes}

/-- A sink that takes all bytes at once is called once. -/
lemma writeAll_whole (hb : b ≠ []) (h : ByteSink.write s b = (.ok b.length, s')) :
    writeAll s b = (.ok (), s') := by
  obtain ⟨n, hn⟩ : ∃ n, b.length = n + 1 := ⟨_, (Nat.succ_pred (by simpa using hb)).symm⟩
  rw [hn] at h
  rw [writeAll_put hb (congrArg Prod.fst h), h, ← hn, List.drop_length, writeAll_nil]

/-- What holds behind the first flush, and is undone by none, holds at the end. -/
lemma flush_behind {P : σ → Prop} (step : ∀ s, P s → P (ByteSink.flush s).2)
    (h : P (ByteSink.flush s).2) : P (flush s).2 := by
  cases hs : (ByteSink.flush s).1 with
  | ok u => rwa [flush_done hs]
  | error e =>
    by_cases he : e.kind = .interrupted
    · rw [flush_interrupted hs he]
      exact flush_keeps step h
    · rwa [flush_failed hs he]

end Writer

namespace Frame

variable {f : Frame}

lemma wire_ne_nil : f.wire ≠ [] := by simp [wire]

/-- Every frame fits into a datagram. -/
lemma length_wire_le (f : Frame) : f.wire.length ≤ maxDatagram := by
  have hpayload := f.length_le
  rw [length_wire]
  simp only [wireSize, overhead, maxPayload, maxDatagram] at *
  omega

end Frame

/-! ### An open link -/

namespace DatagramSink

/-- What a writer reports of a frame, by what the socket made of its datagram. -/
def verdict : Except IoError Unit → Except FrameError Unit
  | .ok () => .ok ()
  | .error e =>
    if e.kind = .connectionRefused ∨ e.kind = .interrupted then .ok () else .error (.io e)

variable {l : Limits} {s : DatagramSink} {f : Frame} {b : Bytes}

lemma write_fits (hopen : s.isClosed = false) (hnone : s.pending = []) (hb : b.length ≤ maxDatagram) :
    s.write b = (.ok b.length, { s with pending := b }) := by
  simp [write, hopen, hnone, Nat.not_lt_of_le hb]

lemma flush_nothing (hopen : s.isClosed = false) (hnone : s.pending = []) : s.flush = (.ok (), s) := by
  simp [flush, hopen, hnone]

lemma flush_pending (hopen : s.isClosed = false) (hsome : s.pending ≠ []) :
    s.flush = (forgive s.nextOutcome.1, s.handOver) := by
  simp [flush, hopen, hsome]

lemma write_closed (hclosed : s.isClosed = true) (b : Bytes) : s.write b = (.error closedError, s) := by
  simp [write, hclosed]

lemma flush_closed (hclosed : s.isClosed = true) : s.flush = (.error closedError, s) := by
  simp [flush, hclosed]

lemma flush_verdict (hopen : s.isClosed = false) (hsome : s.pending ≠ []) :
    Writer.flush s = (verdict s.nextOutcome.1, s.handOver) := by
  have hfirst : ByteSink.flush s = (forgive s.nextOutcome.1, s.handOver) := flush_pending hopen hsome
  cases ho : s.nextOutcome.1 with
  | ok u =>
    rw [ho] at hfirst
    rw [Writer.flush_done (congrArg Prod.fst hfirst), hfirst]
    rfl
  | error e =>
    rw [ho] at hfirst
    by_cases hrefused : e.kind = .connectionRefused
    · rw [forgive, if_pos hrefused] at hfirst
      rw [Writer.flush_done (congrArg Prod.fst hfirst), hfirst, verdict, if_pos (Or.inl hrefused)]
    · rw [forgive, if_neg hrefused] at hfirst
      by_cases hagain : e.kind = .interrupted
      · -- the flush is repeated, and there is nothing left to hand over
        have hsecond : ByteSink.flush s.handOver = (.ok (), s.handOver) := flush_nothing hopen rfl
        rw [Writer.flush_interrupted (congrArg Prod.fst hfirst) hagain, hfirst,
          Writer.flush_done (congrArg Prod.fst hsecond), hsecond, verdict, if_pos (Or.inr hagain)]
      · rw [Writer.flush_failed (congrArg Prod.fst hfirst) hagain, hfirst, verdict,
          if_neg (not_or.mpr ⟨hrefused, hagain⟩)]

/-- An accepted frame is handed over once, whatever becomes of it, and is forgotten. -/
lemma writeFrame_open (hopen : s.isClosed = false) (hnone : s.pending = [])
    (haccepts : l.refusal? f = none) :
    Writer.writeFrame l s f = (verdict s.nextOutcome.1, { s with
      outcomes := s.nextOutcome.2, handed := s.handed ++ [(f.wire, s.nextOutcome.1)] }) := by
  have hwrite : Writer.writeAll s f.wire = (.ok (), { s with pending := f.wire }) :=
    Writer.writeAll_whole Frame.wire_ne_nil (write_fits hopen hnone f.length_wire_le)
  have hflush : Writer.flush { s with pending := f.wire } = _ :=
    flush_verdict hopen Frame.wire_ne_nil
  rw [Writer.writeFrame_flushed haccepts (congrArg Prod.fst hwrite), hwrite, hflush, hnone]
  rfl

lemma verdict_eq_ok_iff {outcome : Except IoError Unit} : verdict outcome = .ok () ↔
    outcome = .ok () ∨ ∃ e, outcome = .error e ∧
      (e.kind = .connectionRefused ∨ e.kind = .interrupted) := by
  cases outcome with
  | ok u => simp [verdict]
  | error e => by_cases h : e.kind = .connectionRefused ∨ e.kind = .interrupted <;> simp [verdict, h]

/-- The link is open, and no bytes wait to be handed over. -/
structure IsClear (s : DatagramSink) : Prop where
  isOpen : s.isClosed = false
  pending : s.pending = []

lemma IsClear.writeFrame (h : s.IsClear) (l : Limits) (f : Frame) :
    (Writer.writeFrame l s f).2.IsClear := by
  cases hr : l.refusal? f with
  | some cause => rwa [Writer.writeFrame_refused hr]
  | none =>
    rw [writeFrame_open h.isOpen h.pending hr]
    exact ⟨h.isOpen, h.pending⟩

end DatagramSink

open DatagramSink in
/-- **What is reported of a frame on an open link.** Whatever was written before and whatever became of
it, a frame that is refused is not handed to the socket; any other is handed over exactly once, as its
wire form and nothing else. It is reported as sent if the socket took it, or knew of nobody at the far
end, or was interrupted; in that last case no other attempt is made. -/
theorem reported_unless_interrupted (l : Limits) (outcomes : List (Except IoError Unit))
    (buffer : Bytes) (before : List Frame) (f : Frame) :
    let writer : BufferedWriter DatagramSink := { sink := { outcomes }, buffer, limits := l }
    let w := (writer.writeEach before).2
    let outcome := w.sink.nextOutcome.1
    (w.writeFrame f).2.sink.handed =
      w.sink.handed ++ (if l.refusal? f = none then [(f.wire, outcome)] else []) ∧
    ((w.writeFrame f).1 = .ok () ↔ l.refusal? f = none ∧ (outcome = .ok () ∨
      ∃ e, outcome = .error e ∧ (e.kind = .connectionRefused ∨ e.kind = .interrupted))) := by
  intro writer w outcome
  have hclear : w.sink.IsClear :=
    BufferedWriter.writeEach_keeps (w := writer) (fun l s f h => h.writeFrame l f) ⟨rfl, rfl⟩ before
  have hlimits : w.limits = l := BufferedWriter.limits_writeEach writer before
  obtain ⟨hresult, hsink⟩ := BufferedWriter.writeFrame_eq w f
  rw [hresult, hsink, hlimits]
  cases hr : l.refusal? f with
  | some cause => simp [Writer.writeFrame_refused hr]
  | none =>
    rw [writeFrame_open hclear.isOpen hclear.pending hr, if_pos rfl]
    exact ⟨rfl, verdict_eq_ok_iff.trans (and_iff_right rfl).symm⟩

open DatagramSink in
/-- A frame can be reported as sent whose datagram the socket has not taken: the send was interrupted, and
the flush that was repeated for it had nothing to hand over. -/
theorem not_reported_only_if_sent :
    ¬ ∀ (l : Limits) (outcomes : List (Except IoError Unit)) (buffer : Bytes) (before : List Frame)
        (f : Frame),
      let writer : BufferedWriter DatagramSink := { sink := { outcomes }, buffer, limits := l }
      let w := (writer.writeEach before).2
      (w.writeFrame f).1 = .ok () → ∃ sends outcome,
        (w.writeFrame f).2.sink.handed = w.sink.handed ++ (sends ++ [(f.wire, outcome)]) ∧
        (∀ x ∈ sends, x.1 = f.wire) ∧
        (outcome = .ok () ∨ ∃ e, outcome = .error e ∧ e.kind = .connectionRefused) := by
  intro hclaim
  let interrupted : Except IoError Unit := .error ⟨.interrupted, "interrupted"⟩
  let w : BufferedWriter DatagramSink := { sink := { outcomes := [interrupted] } }
  let f := Frame.empty Kind.shutDown
  have hwritten : Writer.writeFrame w.limits w.sink f =
      (.ok (), { handed := [(f.wire, interrupted)] }) := writeFrame_open rfl rfl (by decide)
  obtain ⟨hresult, hsink⟩ := BufferedWriter.writeFrame_eq w f
  rw [hwritten] at hresult hsink
  obtain ⟨sends, outcome, hhanded, -, houtcome⟩ := hclaim {} [interrupted] [] [] f hresult
  have hlast : [(f.wire, interrupted)] = sends ++ [(f.wire, outcome)] :=
    (congrArg DatagramSink.handed hsink).symm.trans hhanded
  obtain rfl : interrupted = outcome := by simpa using congrArg List.getLast? hlast
  rcases houtcome with hok | ⟨e, he, hrefused⟩
  · simp [interrupted] at hok
  · obtain rfl : ⟨.interrupted, "interrupted"⟩ = e := by simpa [interrupted] using he
    simp at hrefused

/-! ### A link that is closed from elsewhere -/

/-- The outbound half of a link that is closed from elsewhere after so many more calls on it. A call looks
once whether the link is closed, at its beginning. -/
structure ClosingSink where
  sink : DatagramSink
  left : Nat

namespace ClosingSink

/-- The sink as the next call finds it. -/
def met (s : ClosingSink) : DatagramSink := if s.left = 0 then s.sink.close else s.sink

lemma patience_met (s : ClosingSink) : ByteSink.patience s.met = s.sink.outcomes.length := by
  unfold met
  split <;> rfl

instance : ByteSink ClosingSink where
  write s b := ((s.met.write b).1, ⟨(s.met.write b).2, s.left - 1⟩)
  flush s := (s.met.flush.1, ⟨s.met.flush.2, s.left - 1⟩)
  patience s := s.sink.outcomes.length
  patience_write_le s b := by
    rw [← patience_met s]
    exact ByteSink.patience_write_le s.met b
  patience_write_lt s b e h hi := by
    rw [← patience_met s]
    exact ByteSink.patience_write_lt s.met b e h hi
  patience_flush_lt s e h hi := by
    rw [← patience_met s]
    exact ByteSink.patience_flush_lt s.met e h hi

/-- Every datagram that was handed to the socket. -/
def datagrams (s : ClosingSink) : List Bytes := s.sink.handed.map Prod.fst

/-- As long as the link is open, no bytes wait to be handed over. -/
structure IsClear (s : ClosingSink) : Prop where
  isOpen : s.left ≠ 0 → s.sink.isClosed = false
  pending : s.left ≠ 0 → s.sink.pending = []

variable {l : Limits} {s : ClosingSink} {f : Frame} {b : Bytes} {n : Nat}

lemma write_eq (s : ClosingSink) (b : Bytes) :
    ByteSink.write s b = ((s.met.write b).1, ⟨(s.met.write b).2, s.left - 1⟩) := rfl

lemma flush_eq (s : ClosingSink) :
    ByteSink.flush s = (s.met.flush.1, ⟨s.met.flush.2, s.left - 1⟩) := rfl

/-! ### One call on it -/

/-- Once the link is closed no call hands anything over, and none goes well. -/
lemma write_shut (h : s.left = 0) (b : Bytes) :
    ByteSink.write s b = (.error DatagramSink.closedError, ⟨s.sink.close, 0⟩) := by
  rw [write_eq, met, if_pos h, DatagramSink.write_closed rfl, h]

lemma flush_shut (h : s.left = 0) :
    ByteSink.flush s = (.error DatagramSink.closedError, ⟨s.sink.close, 0⟩) := by
  rw [flush_eq, met, if_pos h, DatagramSink.flush_closed rfl, h]

lemma write_open (hclear : s.IsClear) (h : s.left = n + 1) (hb : b.length ≤ maxDatagram) :
    ByteSink.write s b = (.ok b.length, ⟨{ s.sink with pending := b }, n⟩) := by
  have hleft : s.left ≠ 0 := by omega
  rw [write_eq, met, if_neg hleft, h,
    DatagramSink.write_fits (hclear.isOpen hleft) (hclear.pending hleft) hb]
  rfl

lemma flush_open (hopen : s.sink.isClosed = false) (hsome : s.sink.pending ≠ []) (h : s.left = n + 1) :
    ByteSink.flush s =
      (DatagramSink.forgive s.sink.nextOutcome.1, ⟨s.sink.handOver, n⟩) := by
  have hleft : s.left ≠ 0 := by omega
  rw [flush_eq, met, if_neg hleft, h, DatagramSink.flush_pending hopen hsome]
  rfl

/-- A flush with nothing to hand over hands nothing over. -/
lemma IsClear.flush (h : s.IsClear) :
    (ByteSink.flush s).2.IsClear ∧ (ByteSink.flush s).2.datagrams = s.datagrams := by
  by_cases hleft : s.left = 0
  · rw [flush_shut hleft]
    exact ⟨⟨by simp, by simp⟩, rfl⟩
  · rw [flush_eq, met, if_neg hleft, DatagramSink.flush_nothing (h.isOpen hleft) (h.pending hleft)]
    exact ⟨⟨fun _ => h.isOpen hleft, fun _ => h.pending hleft⟩, rfl⟩

/-! ### One frame -/

/-- What was collected on a clear link is handed over, unless the link is closed before that. -/
lemma flush_collected (h : s.IsClear) (hleft : s.left = n + 1) (hb : b ≠ []) :
    let c := (Writer.flush (⟨{ s.sink with pending := b }, n⟩ : ClosingSink)).2
    c.IsClear ∧ c.datagrams = s.datagrams ++ if 2 ≤ s.left then [b] else [] := by
  have hopen : s.sink.isClosed = false := h.isOpen (by omega)
  refine Writer.flush_behind
    (P := fun c : ClosingSink => c.IsClear ∧ c.datagrams = s.datagrams ++ if 2 ≤ s.left then [b] else [])
    (fun c hc => ⟨hc.1.flush.1, hc.1.flush.2.trans hc.2⟩) ?_
  cases n with
  | zero =>
    rw [flush_shut rfl, if_neg (by omega), List.append_nil]
    exact ⟨⟨by simp, by simp⟩, rfl⟩
  | succ m =>
    have hfirst := flush_open (s := ⟨{ s.sink with pending := b }, m + 1⟩) hopen hb rfl
    rw [hfirst, if_pos (by omega)]
    exact ⟨⟨fun _ => hopen, fun _ => rfl⟩, by simp [datagrams, DatagramSink.handOver]⟩

/-- Once the link is closed no frame is handed over, and none is reported as sent. -/
lemma writeFrame_shut (h : s.left = 0) (l : Limits) (f : Frame) :
    (Writer.writeFrame l s f).2.left = 0 ∧ (Writer.writeFrame l s f).2.datagrams = s.datagrams ∧
      (Writer.writeFrame l s f).1 ≠ .ok () := by
  cases hr : l.refusal? f with
  | some cause => simpa [Writer.writeFrame_refused hr] using h
  | none =>
    have hshut := write_shut h f.wire
    have hall := Writer.writeAll_failed Frame.wire_ne_nil (congrArg Prod.fst hshut) (by decide)
    rw [Writer.writeFrame_stopped hr (congrArg Prod.fst hall), hall, hshut]
    exact ⟨rfl, by simp [datagrams, DatagramSink.close], by simp⟩

/-- A frame is handed over if it is accepted and the link is open up to the flush. -/
lemma IsClear.writeFrame (h : s.IsClear) (l : Limits) (f : Frame) :
    (Writer.writeFrame l s f).2.IsClear ∧ (Writer.writeFrame l s f).2.datagrams =
      s.datagrams ++ if l.refusal? f = none ∧ 2 ≤ s.left then [f.wire] else [] := by
  cases hr : l.refusal? f with
  | some cause => simpa [Writer.writeFrame_refused hr] using h
  | none =>
    cases hleft : s.left with
    | zero =>
      obtain ⟨hzero, hsame, -⟩ := writeFrame_shut hleft l f
      exact ⟨⟨fun hne => absurd hzero hne, fun hne => absurd hzero hne⟩, by simpa using hsame⟩
    | succ n =>
      have hwrite := Writer.writeAll_whole Frame.wire_ne_nil (write_open h hleft f.length_wire_le)
      rw [Writer.writeFrame_flushed hr (congrArg Prod.fst hwrite), hwrite]
      simpa [hleft] using flush_collected h hleft Frame.wire_ne_nil

/-! ### One frame after the other -/

variable {w : BufferedWriter ClosingSink} {fs : List Frame}

lemma IsClear.written (h : w.sink.IsClear) (f : Frame) :
    (w.writeFrame f).2.sink.IsClear ∧ (w.writeFrame f).2.sink.datagrams =
      w.sink.datagrams ++ if w.limits.refusal? f = none ∧ 2 ≤ w.sink.left then [f.wire] else [] := by
  rw [(w.writeFrame_eq f).2]
  exact h.writeFrame w.limits f

/-- What is handed over of a sequence of frames is a part of it. -/
lemma IsClear.written_each (h : w.sink.IsClear) (fs : List Frame) :
    ∃ sent : List Frame, sent.Sublist fs ∧ (∀ f ∈ sent, w.limits.refusal? f = none) ∧
      (w.writeEach fs).2.sink.datagrams = w.sink.datagrams ++ sent.map Frame.wire := by
  induction fs generalizing w with
  | nil => exact ⟨[], .slnil, by simp, (List.append_nil _).symm⟩
  | cons f fs ih =>
    obtain ⟨hclear, hfirst⟩ := h.written f
    obtain ⟨sent, hsub, haccepted, hrest⟩ := ih hclear
    rw [BufferedWriter.limits_writeFrame] at haccepted
    rw [BufferedWriter.writeEach, hrest, hfirst]
    by_cases hsent : w.limits.refusal? f = none ∧ 2 ≤ w.sink.left
    · refine ⟨f :: sent, hsub.cons_cons f, ?_, by simp [hsent]⟩
      rintro g (_ | ⟨_, hg⟩)
      · exact hsent.1
      · exact haccepted g hg
    · exact ⟨sent, hsub.cons f, haccepted, by simp [hsent]⟩

/-- On a closed link nothing is handed over, however much is written. -/
lemma written_each_shut (h : w.sink.left = 0) (fs : List Frame) :
    (w.writeEach fs).2.sink.datagrams = w.sink.datagrams ∧
      ∀ result ∈ (w.writeEach fs).1, result ≠ .ok () := by
  induction fs generalizing w with
  | nil => exact ⟨rfl, by simp [BufferedWriter.writeEach]⟩
  | cons f fs ih =>
    obtain ⟨hresult, hsink⟩ := w.writeFrame_eq f
    obtain ⟨hleft, hsame, hfailed⟩ := writeFrame_shut h w.limits f
    rw [← hsink] at hleft hsame
    rw [← hresult] at hfailed
    obtain ⟨hrest, hresults⟩ := ih hleft
    refine ⟨hrest.trans hsame, ?_⟩
    rintro result (_ | ⟨_, hr⟩)
    · exact hfailed
    · exact hresults result hr

end ClosingSink

open ClosingSink in
/-- **One datagram, one frame.** Frames are written to a link that may be closed at any point, between two
frames or in the middle of one, and the socket may make of each datagram what it likes. The datagrams
that were handed over are then the wire forms of some of the accepted frames, each at most once and in
their order. The next frame is handed over, alone and whole, exactly if it is accepted and the link stays
open up to its flush. Once the link is closed nothing is handed over any more, and no frame is reported
as sent. -/
theorem one_datagram_one_frame (l : Limits) (outcomes : List (Except IoError Unit)) (left : Nat)
    (buffer : Bytes) (fs : List Frame) :
    let writer : BufferedWriter ClosingSink :=
      { sink := { sink := { outcomes }, left }, buffer, limits := l }
    let w := (writer.writeEach fs).2
    (∃ sent : List Frame, sent.Sublist fs ∧ (∀ f ∈ sent, l.refusal? f = none) ∧
      w.sink.datagrams = sent.map Frame.wire) ∧
    (∀ f, (w.writeFrame f).2.sink.datagrams =
      w.sink.datagrams ++ if l.refusal? f = none ∧ 2 ≤ w.sink.left then [f.wire] else []) ∧
    (w.sink.left = 0 → ∀ more, (w.writeEach more).2.sink.datagrams = w.sink.datagrams ∧
      ∀ result ∈ (w.writeEach more).1, result ≠ .ok ()) := by
  intro writer w
  have hfresh : writer.sink.IsClear := ⟨fun _ => rfl, fun _ => rfl⟩
  have hclear : w.sink.IsClear :=
    BufferedWriter.writeEach_keeps (w := writer) (fun l s f h => (h.writeFrame l f).1) hfresh fs
  have hlimits : w.limits = l := BufferedWriter.limits_writeEach writer fs
  refine ⟨?_, fun f => ?_, fun hleft more => written_each_shut hleft more⟩
  · obtain ⟨sent, hsub, haccepted, hsent⟩ := hfresh.written_each fs
    exact ⟨sent, hsub, haccepted, hsent⟩
  · rw [← hlimits]
    exact (hclear.written f).2

end FrameLink
