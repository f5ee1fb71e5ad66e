import FrameLink.Proofs.Stream.Deeds
import FrameLink.Stream.InPlace

/-!
A writer that uses its buffer again writes each frame as if it were its first.

Encoding puts the wire form behind what is there, so a buffer that was cleared holds the wire form and
nothing else, and the place in it is how much was taken. What an earlier frame has left in the buffer,
whether it got across or not, is never offered to the sink.
-/

namespace FrameLink

lemma Frame.encodeInto_eq (f : Frame) (buffer : Bytes) : f.encodeInto buffer = buffer ++ f.wire := by
  unfold Frame.encodeInto Frame.wire
  split
  · next h => simp [h]
  · simp

namespace Codec

variable {c : Codec} {f : Frame}

lemma encodeInto_tooLarge (h : c.limits.payload < f.payload.length) (buffer : Bytes) :
    c.encodeInto f buffer = (.error (.payloadTooLarge f.payload.length c.limits.payload), buffer) :=
  if_pos h

lemma encodeInto_stale (h : f.payload.length ≤ c.limits.payload) (stale : ¬ f.IsValid)
    (buffer : Bytes) : c.encodeInto f buffer = (.error (.staleChecksum f.kind), buffer) := by
  rw [encodeInto, if_neg (Nat.not_lt_of_le h), if_pos stale]

lemma encodeInto_fits (h : f.payload.length ≤ c.limits.payload) (valid : f.IsValid) (buffer : Bytes) :
    c.encodeInto f buffer = (.ok (), buffer ++ f.wire) := by
  rw [encodeInto, if_neg (Nat.not_lt_of_le h), if_neg (not_not_intro valid), Frame.encodeInto_eq]

/-- In place or not, the same frames are encoded, to the same bytes. -/
lemma encode_eq (c : Codec) (f : Frame) (buffer : Bytes) :
    c.encode f buffer = (c.encodeInto f buffer).1.map fun _ => (c.encodeInto f buffer).2 := by
  unfold encode
  rcases Nat.lt_or_ge c.limits.payload f.payload.length with hlong | hfits
  · rw [Limits.refusal?_of_tooLarge hlong, encodeInto_tooLarge hlong]
    rfl
  · by_cases hvalid : f.IsValid
    · rw [Limits.refusal?_of_fits hfits hvalid, encodeInto_fits hfits hvalid]
      rfl
    · rw [Limits.refusal?_of_stale hfits hvalid, encodeInto_stale hfits hvalid]
      rfl

end Codec

namespace BufferedWriter

variable {σ : Type} [ByteSink σ] {w : BufferedWriter σ} {f : Frame}

/-- Writing from a place on is writing what stands from there on. -/
lemma writeFrom_eq (s : σ) (buffer : Bytes) (place : Nat) :
    writeFrom s buffer place = Writer.writeAll s (buffer.drop place) := by
  have hleft {place : Nat} (hp : place < buffer.length) : buffer.drop place ≠ [] := by
    rw [ne_eq, List.drop_eq_nil_iff]
    omega
  fun_induction writeFrom s buffer place with
  | case1 s place hp hz => rw [Writer.writeAll_closed (hleft hp) hz]
  | case2 s place hp n hn ih => rw [ih, Writer.writeAll_put (hleft hp) hn, List.drop_drop]
  | case3 s place hp e he hi ih => rw [ih, Writer.writeAll_interrupted (hleft hp) he hi]
  | case4 s place hp e he hi => rw [Writer.writeAll_failed (hleft hp) he hi]
  | case5 s place hp =>
    rw [List.drop_eq_nil_of_le (Nat.le_of_not_lt hp), Writer.writeAll_nil]

lemma writeFrame_tooLarge (h : w.limits.payload < f.payload.length) :
    w.writeFrame f = (.error (.payloadTooLarge f.payload.length w.limits.payload), w) := if_pos h

lemma writeFrame_stale (h : f.payload.length ≤ w.limits.payload) (stale : ¬ f.IsValid) :
    w.writeFrame f = (.error (.staleChecksum f.kind), w) := by
  rw [writeFrame, if_neg (Nat.not_lt_of_le h), if_pos stale]

/-- Whatever the buffer holds, a frame goes to the sink as it does without a buffer. -/
lemma writeFrame_fits (h : f.payload.length ≤ w.limits.payload) (valid : f.IsValid) :
    w.writeFrame f = ((Writer.writeFrame w.limits w.sink f).1,
      { w with sink := (Writer.writeFrame w.limits w.sink f).2, buffer := f.wire }) := by
  have haccepts := Limits.refusal?_of_fits h valid
  have hbuffer : f.encodeInto [] = f.wire := by rw [Frame.encodeInto_eq, List.nil_append]
  have hwrite : writeFrom w.sink f.wire 0 = Writer.writeAll w.sink f.wire := by
    rw [writeFrom_eq, List.drop_zero]
  simp only [writeFrame, if_neg (Nat.not_lt_of_le h), if_neg (not_not_intro valid), hbuffer, hwrite]
  cases hall : Writer.writeAll w.sink f.wire with
  | mk o s =>
    cases o with
    | ok u =>
      rw [Writer.writeFrame_flushed haccepts (congrArg Prod.fst hall), hall]
      rfl
    | error e => rw [Writer.writeFrame_stopped haccepts (congrArg Prod.fst hall), hall]

/-- With a buffer or without, frames come out alike on the sink. -/
lemma writeFrame_eq (w : BufferedWriter σ) (f : Frame) :
    (w.writeFrame f).1 = (Writer.writeFrame w.limits w.sink f).1 ∧
      (w.writeFrame f).2.sink = (Writer.writeFrame w.limits w.sink f).2 := by
  rcases Nat.lt_or_ge w.limits.payload f.payload.length with hlong | hfits
  · rw [writeFrame_tooLarge hlong, Writer.writeFrame_refused (Limits.refusal?_of_tooLarge hlong)]
    exact ⟨rfl, rfl⟩
  · by_cases hvalid : f.IsValid
    · rw [writeFrame_fits hfits hvalid]
      exact ⟨rfl, rfl⟩
    · rw [writeFrame_stale hfits hvalid, Writer.writeFrame_refused (Limits.refusal?_of_stale hfits hvalid)]
      exact ⟨rfl, rfl⟩

/-- The calls that writing a frame makes on the sink. -/
def deeds (w : BufferedWriter σ) (f : Frame) : List Deed :=
  ({ sink := { sink := w.sink }, buffer := w.buffer, limits := w.limits } :
    BufferedWriter (Recorder σ)).writeFrame f |>.2.sink.deeds

lemma deeds_eq (w : BufferedWriter σ) (f : Frame) : w.deeds f = Writer.deeds w.limits w.sink f := by
  rw [deeds, (writeFrame_eq _ f).2]
  rfl

/-- **A frame is written whole, or it is reported why not.** A frame with too long a payload or, failing
that, a stale checksum is refused without a call on the sink. Any other is offered from its first byte
on, each write what the writes before it have left, so that what the sink takes is a front of the wire
form; all went well exactly when the sink took it all and a flush went well, and otherwise the call that
failed first is reported: a write that took nothing, or a failure that is no interruption. What the
buffer held before makes no difference to this. Encoding into a buffer refuses the same frames in the
same way and leaves the buffer alone, or puts the wire form behind what it holds. -/
theorem writes_whole_or_reports (w : BufferedWriter σ) (f : Frame) (tally : ScanTally) (buffer : Bytes) :
    let codec : Codec := { limits := w.limits, tally }
    (w.limits.payload < f.payload.length →
      let refusal : Except FrameError Unit :=
        .error (.payloadTooLarge f.payload.length w.limits.payload)
      w.writeFrame f = (refusal, w) ∧ w.deeds f = [] ∧ codec.encodeInto f buffer = (refusal, buffer)) ∧
    (f.payload.length ≤ w.limits.payload → ¬ f.IsValid →
      let refusal : Except FrameError Unit := .error (.staleChecksum f.kind)
      w.writeFrame f = (refusal, w) ∧ w.deeds f = [] ∧ codec.encodeInto f buffer = (refusal, buffer)) ∧
    (f.payload.length ≤ w.limits.payload → f.IsValid →
      codec.encodeInto f buffer = (.ok (), buffer ++ f.wire) ∧
      (∃ answer rest, w.deeds f = .write f.wire answer :: rest) ∧
      (∀ front offered answer back, w.deeds f = front ++ .write offered answer :: back →
        front.flatMap Deed.taken ++ offered = f.wire) ∧
      (w.deeds f).flatMap Deed.taken <+: f.wire ∧
      ((w.writeFrame f).1 = .ok () ↔
        (w.deeds f).flatMap Deed.taken = f.wire ∧ .flush (.ok ()) ∈ w.deeds f) ∧
      ∀ e, (w.writeFrame f).1 = .error e ↔ (w.deeds f).findSome? Deed.failure? = some e) ∧
    ∀ left, (({ w with buffer := left }).writeFrame f).1 = (w.writeFrame f).1 ∧
      (({ w with buffer := left }).writeFrame f).2.sink = (w.writeFrame f).2.sink ∧
      ({ w with buffer := left }).deeds f = w.deeds f := by
  intro codec
  refine ⟨fun hlong => ⟨writeFrame_tooLarge hlong, ?_, Codec.encodeInto_tooLarge hlong buffer⟩,
    fun hfits hstale => ⟨writeFrame_stale hfits hstale, ?_, Codec.encodeInto_stale hfits hstale buffer⟩,
    fun hfits hvalid => ?_, fun left => ⟨?_, ?_, ?_⟩⟩
  · rw [deeds_eq, Writer.deeds_refused (Limits.refusal?_of_tooLarge hlong)]
  · rw [deeds_eq, Writer.deeds_refused (Limits.refusal?_of_stale hfits hstale)]
  · have hdelivered := Writer.deeds_delivered (s := w.sink) (Limits.refusal?_of_fits hfits hvalid)
    rw [← deeds_eq, ← (writeFrame_eq w f).1] at hdelivered
    refine ⟨Codec.encodeInto_fits hfits hvalid buffer, hdelivered.first (by simp [Frame.wire]),
      fun front offered answer back hds => hdelivered.offered hds, hdelivered.taken_prefix,
      hdelivered.ok_iff, fun e => ?_⟩
    rw [← hdelivered.outcome_eq, Deed.outcome_eq_error_iff]
  · rw [(writeFrame_eq _ f).1, (writeFrame_eq w f).1]
  · rw [(writeFrame_eq _ f).2, (writeFrame_eq w f).2]
  · rw [deeds_eq, deeds_eq]

/-- A sink takes two bytes, is interrupted, takes one more and fails; the next frame then begins anew.
The refused frames before it have made no call. -/
theorem writes_whole_or_reports_after_failure :
    let interrupted : IoError := ⟨.interrupted, "interrupted"⟩
    let timedOut : IoError := ⟨.timedOut, "timed out"⟩
    let script := [.ok 2, .error interrupted, .ok 1, .error timedOut]
    let w : BufferedWriter Sink :=
      { sink := { writes := script }, buffer := [0x12, 0x09], limits := { maxPayloadSize := 1 } }
    let long : Frame := ⟨Kind.shutDown, [1, 2], 0, by decide⟩
    let stale : Frame := ⟨Kind.shutDown, [1], 0, by decide⟩
    let first := Frame.empty Kind.shutDown
    let second := Frame.empty Kind.enableSensors
    (w.limits.payload < long.payload.length ∧ w.deeds long = [] ∧
      w.writeFrame long = (.error (.payloadTooLarge 2 1), w)) ∧
    (stale.payload.length ≤ w.limits.payload ∧ ¬ stale.IsValid ∧ w.deeds stale = [] ∧
      w.writeFrame stale = (.error (.staleChecksum Kind.shutDown), w)) ∧
    (first.payload.length ≤ w.limits.payload ∧ first.IsValid ∧
      (w.deeds first).flatMap Deed.taken = first.wire.take 3 ∧
      (w.writeFrame first).1 = .error (.io timedOut)) ∧
    second.payload.length ≤ (w.writeFrame first).2.limits.payload ∧ second.IsValid ∧
    ∃ answer rest, (w.writeFrame first).2.deeds second = .write second.wire answer :: rest := by
  intro interrupted timedOut script w long stale first second
  obtain ⟨r, hall, hr⟩ : ∃ r : Recorder Sink,
      Writer.writeAll ({ sink := w.sink } : Recorder Sink) first.wire = (.error (.io timedOut), r) ∧
      r.deeds = [.write first.wire (.ok 2), .write (first.wire.drop 2) (.error interrupted),
        .write (first.wire.drop 2) (.ok 1), .write (first.wire.drop 3) (.error timedOut)] := by
    rw [Writer.writeAll_put (n := 1), Writer.writeAll_interrupted (e := interrupted),
      Writer.writeAll_put (n := 0), Writer.writeAll_failed (e := timedOut)]
    · exact ⟨_, rfl, rfl⟩
    all_goals first | rfl | decide
  have hcalls : w.deeds first = r.deeds := (deeds_eq w first).trans (Writer.deeds_stopped (by decide) hall)
  have hlimits : (w.writeFrame first).2.limits = w.limits := by
    rw [writeFrame_fits (by decide) (by decide)]
  obtain ⟨hlong, -, -, -⟩ := writes_whole_or_reports w long {} []
  obtain ⟨-, hstale, -, -⟩ := writes_whole_or_reports w stale {} []
  obtain ⟨-, -, hfirst, -⟩ := writes_whole_or_reports w first {} []
  obtain ⟨-, -, hsecond, -⟩ := writes_whole_or_reports (w.writeFrame first).2 second {} []
  obtain ⟨-, -, -, -, -, hreported⟩ := hfirst (by decide) (by decide)
  obtain ⟨-, hbegins, -⟩ := hsecond (by rw [hlimits]; decide) (by decide)
  obtain ⟨hrefused, hquiet, -⟩ := hlong (by decide)
  obtain ⟨hrefused', hquiet', -⟩ := hstale (by decide) (by decide)
  exact ⟨⟨by decide, hquiet, hrefused⟩, ⟨by decide, by decide, hquiet', hrefused'⟩,
    ⟨by decide, by decide, by rw [hcalls, hr]; decide, (hreported _).mpr (by rw [hcalls, hr]; rfl)⟩,
    by rw [hlimits]; decide, by decide, hbegins⟩

end BufferedWriter

end FrameLink
