import Mathlib.Tactic.Lemma
import FrameLink.Stream.Writer

/-!
What a writer makes of the answers of its sink.

Each call on the sink ends the writing or leads to the next one. A sink that interrupts, and takes
only a part of what it is offered, but always some of it, gets every byte in the end.
-/

namespace FrameLink

namespace Writer

section Steps

variable {σ : Type} [ByteSink σ] {s : σ} {b : Bytes} {e : IoError}

@[simp] lemma writeAll_nil (s : σ) : writeAll s [] = (.ok (), s) := by
  unfold writeAll
  simp

lemma writeAll_closed (hb : b ≠ []) (h : (ByteSink.write s b).1 = .ok 0) :
    writeAll s b = (.error .connectionClosed, (ByteSink.write s b).2) := by
  rw [writeAll, dif_neg hb]
  split <;> simp_all

lemma writeAll_put {n : Nat} (hb : b ≠ []) (h : (ByteSink.write s b).1 = .ok (n + 1)) :
    writeAll s b = writeAll (ByteSink.write s b).2 (b.drop (n + 1)) := by
  rw [writeAll, dif_neg hb]
  split <;> simp_all

lemma writeAll_interrupted (hb : b ≠ []) (h : (ByteSink.write s b).1 = .error e)
    (he : e.kind = .interrupted) : writeAll s b = writeAll (ByteSink.write s b).2 b := by
  rw [writeAll, dif_neg hb]
  split <;> simp_all

lemma writeAll_failed (hb : b ≠ []) (h : (ByteSink.write s b).1 = .error e)
    (he : e.kind ≠ .interrupted) : writeAll s b = (.error (.io e), (ByteSink.write s b).2) := by
  rw [writeAll, dif_neg hb]
  split <;> simp_all

lemma flush_done (h : (ByteSink.flush s).1 = .ok ()) : flush s = (.ok (), (ByteSink.flush s).2) := by
  rw [flush]
  split <;> simp_all

lemma flush_interrupted (h : (ByteSink.flush s).1 = .error e) (he : e.kind = .interrupted) :
    flush s = flush (ByteSink.flush s).2 := by
  rw [flush]
  split <;> simp_all

lemma flush_failed (h : (ByteSink.flush s).1 = .error e) (he : e.kind ≠ .interrupted) :
    flush s = (.error (.io e), (ByteSink.flush s).2) := by
  rw [flush]
  split <;> simp_all

lemma writeFrame_refused {l : Limits} {f : Frame} {cause : FrameError} (h : l.refusal? f = some cause)
    (s : σ) : writeFrame l s f = (.error cause, s) := by
  unfold writeFrame
  rw [h]

lemma writeFrame_stopped {l : Limits} {f : Frame} {cause : FrameError} (h : l.refusal? f = none)
    (hw : (writeAll s f.wire).1 = .error cause) : writeFrame l s f = writeAll s f.wire := by
  unfold writeFrame
  simp only [h]
  split
  · next s' hs => simp [hs] at hw
  · rfl

lemma writeFrame_flushed {l : Limits} {f : Frame} (h : l.refusal? f = none)
    (hw : (writeAll s f.wire).1 = .ok ()) : writeFrame l s f = flush (writeAll s f.wire).2 := by
  unfold writeFrame
  simp only [h]
  split
  · next s' hs => rw [hs]
  · next hne => exact (hne _ (Prod.ext hw rfl)).elim

/-- What no write undoes, no sequence of writes does. -/
lemma writeAll_keeps {P : σ → Prop} (write : ∀ s b, P s → P (ByteSink.write s b).2) (h : P s) (b : Bytes) :
    P (writeAll s b).2 := by
  induction s, b using writeAll.induct with
  | case1 s => rwa [writeAll_nil]
  | case2 s b hb hz =>
    rw [writeAll_closed hb hz]
    exact write s b h
  | case3 s b hb n hn ih =>
    rw [writeAll_put hb hn]
    exact ih (write s b h)
  | case4 s b hb e he hi ih =>
    rw [writeAll_interrupted hb he hi]
    exact ih (write s b h)
  | case5 s b hb e he hi =>
    rw [writeAll_failed hb he hi]
    exact write s b h

lemma flush_keeps {P : σ → Prop} (step : ∀ s, P s → P (ByteSink.flush s).2) (h : P s) :
    P (flush s).2 := by
  induction s using flush.induct with
  | case1 s hdone =>
    rw [flush_done hdone]
    exact step s h
  | case2 s e he hi ih =>
    rw [flush_interrupted he hi]
    exact ih (step s h)
  | case3 s e he hi =>
    rw [flush_failed he hi]
    exact step s h

/-- What no call on a sink undoes, writing a frame does not. -/
lemma writeFrame_keeps {P : σ → Prop} (write : ∀ s b, P s → P (ByteSink.write s b).2)
    (flush : ∀ s, P s → P (ByteSink.flush s).2) (h : P s) (l : Limits) (f : Frame) :
    P (writeFrame l s f).2 := by
  cases hr : l.refusal? f with
  | some cause => rwa [writeFrame_refused hr]
  | none =>
    have hall := writeAll_keeps write h f.wire
    cases ho : (writeAll s f.wire).1 with
    | ok u =>
      rw [writeFrame_flushed hr ho]
      exact flush_keeps flush hall
    | error e => rwa [writeFrame_stopped hr ho]

/-- Writes one frame after the other; each call has its own result. -/
def writeEach (l : Limits) : σ → List Frame → List (Except FrameError Unit) × σ
  | s, [] => ([], s)
  | s, f :: fs =>
    ((writeFrame l s f).1 :: (writeEach l (writeFrame l s f).2 fs).1,
      (writeEach l (writeFrame l s f).2 fs).2)

end Steps

end Writer

/-! ### A willing sink -/

/-- The sink is open, and takes at least one byte of every write that it does not interrupt. -/
structure Sink.IsWilling (s : Sink) : Prop where
  isOpen : s.isClosed = false
  writes : ∀ e ∈ s.writes, (∃ n, e = .ok (n + 1)) ∨ ∃ x : IoError, e = .error x ∧ x.kind = .interrupted
  flushes : ∀ e ∈ s.flushes, e = .ok () ∨ ∃ x : IoError, e = .error x ∧ x.kind = .interrupted

namespace Sink

variable {s : Sink} {b : Bytes}

/-- A write takes some of the bytes, or is interrupted and takes none. -/
lemma IsWilling.write (h : s.IsWilling) (hb : b ≠ []) :
    (s.write b).2.IsWilling ∧
    ((∃ n, (s.write b).1 = .ok (n + 1) ∧ (s.write b).2.accepted = s.accepted ++ b.take (n + 1)) ∨
    ∃ e, (s.write b).1 = .error e ∧ e.kind = .interrupted ∧
      (s.write b).2.accepted = s.accepted) := by
  obtain ⟨writes, flushes, isClosed, pieces, flushed⟩ := s
  obtain ⟨rfl, hwrites, hflushes⟩ := h
  obtain ⟨k, hk⟩ : ∃ k, b.length = k + 1 := ⟨_, (Nat.succ_pred (by simpa using hb)).symm⟩
  match writes with
  | [] =>
    refine ⟨⟨rfl, by simp [Sink.write, take], hflushes⟩, Or.inl ⟨k, by simp [Sink.write, hk], ?_⟩⟩
    simp [Sink.write, accepted, take, ← hk]
  | answer :: rest =>
    have hrest := fun e he => hwrites e (List.mem_cons_of_mem _ he)
    rcases hwrites answer (List.mem_cons_self ..) with ⟨n, rfl⟩ | ⟨x, rfl, hx⟩
    · refine ⟨⟨rfl, hrest, hflushes⟩, Or.inl ⟨min n k, ?_, ?_⟩⟩
      · simp [Sink.write, hk]
      · have htake : b.take (min n k + 1) = b.take (n + 1) := by
          rw [← Nat.add_min_add_right, ← hk, ← List.take_take, List.take_length]
        simp [Sink.write, accepted, take, htake]
    · exact ⟨⟨rfl, hrest, hflushes⟩, Or.inr ⟨x, rfl, hx, rfl⟩⟩

lemma IsWilling.flush (h : s.IsWilling) :
    s.flush.2.IsWilling ∧ s.flush.2.accepted = s.accepted ∧
      (s.flush.1 = .ok () ∨ ∃ e, s.flush.1 = .error e ∧ e.kind = .interrupted) := by
  obtain ⟨writes, flushes, isClosed, pieces, flushed⟩ := s
  obtain ⟨hopen, hwrites, hflushes⟩ := h
  match flushes with
  | [] => exact ⟨⟨hopen, hwrites, hflushes⟩, rfl, Or.inl rfl⟩
  | answer :: rest =>
    have hrest := fun e he => hflushes e (List.mem_cons_of_mem _ he)
    rcases hflushes answer (List.mem_cons_self ..) with rfl | ⟨x, rfl, hx⟩
    · exact ⟨⟨hopen, hwrites, hrest⟩, rfl, Or.inl rfl⟩
    · exact ⟨⟨hopen, hwrites, hrest⟩, rfl, Or.inr ⟨x, rfl, hx⟩⟩

end Sink

namespace Writer

variable {s : Sink} {b : Bytes} {l : Limits} {f : Frame} {fs : List Frame}

/-- What a call leaves of a willing sink: it has gone well, and the sink has these bytes more. -/
structure Puts (s : Sink) (b : Bytes) (call : Except FrameError Unit × Sink) : Prop where
  done : call.1 = .ok ()
  isWilling : call.2.IsWilling
  accepted : call.2.accepted = s.accepted ++ b

lemma writeAll_puts (h : s.IsWilling) (b : Bytes) : Puts s b (writeAll s b) := by
  induction s, b using writeAll.induct with
  | case1 s => exact ⟨by simp, by simpa using h, by simp⟩
  | case2 s b hb hz =>
    rcases (h.write hb).2 with ⟨n, hn, -⟩ | ⟨e, he, -⟩
    · exact absurd (hn.symm.trans hz) (by simp)
    · exact absurd (he.symm.trans hz) (by simp)
  | case3 s b hb n hn ih =>
    obtain ⟨hwilling, ⟨m, hm, hacc⟩ | ⟨e, he, -⟩⟩ := h.write hb
    · obtain rfl : n = m := by
        have hnm := hn.symm.trans hm
        simpa using hnm
      have hrest := ih hwilling
      rw [writeAll_put hb hn]
      refine ⟨hrest.done, hrest.isWilling, hrest.accepted.trans ?_⟩
      change (s.write b).2.accepted ++ _ = _
      rw [hacc, List.append_assoc, List.take_append_drop]
    · exact absurd (he.symm.trans hn) (by simp)
  | case4 s b hb e he hi ih =>
    obtain ⟨hwilling, ⟨m, hm, -⟩ | ⟨e', he', -, hacc⟩⟩ := h.write hb
    · exact absurd (hm.symm.trans he) (by simp)
    · have hrest := ih hwilling
      rw [writeAll_interrupted hb he hi]
      refine ⟨hrest.done, hrest.isWilling, hrest.accepted.trans ?_⟩
      change (s.write b).2.accepted ++ _ = _
      rw [hacc]
  | case5 s b hb e he hi =>
    rcases (h.write hb).2 with ⟨n, hn, -⟩ | ⟨e', he', hi', -⟩
    · exact absurd (hn.symm.trans he) (by simp)
    · obtain rfl : e' = e := by
        have hee := he'.symm.trans he
        simpa using hee
      exact absurd hi' hi

lemma flush_puts (h : s.IsWilling) : Puts s [] (flush s) := by
  induction s using flush.induct with
  | case1 s hdone =>
    rw [flush_done hdone]
    exact ⟨rfl, h.flush.1, h.flush.2.1.trans (List.append_nil _).symm⟩
  | case2 s e he hi ih =>
    have hrest := ih h.flush.1
    rw [flush_interrupted he hi]
    refine ⟨hrest.done, hrest.isWilling, hrest.accepted.trans ?_⟩
    change s.flush.2.accepted ++ _ = _
    rw [h.flush.2.1]
  | case3 s e he hi =>
    rcases h.flush.2.2 with hdone | ⟨e', he', hi'⟩
    · exact absurd (hdone.symm.trans he) (by simp)
    · obtain rfl : e' = e := by
        have hee := he'.symm.trans he
        simpa using hee
      exact absurd hi' hi

/-- A frame that the limits do not refuse gets across whole. -/
lemma writeFrame_puts (h : s.IsWilling) (hf : l.refusal? f = none) :
    Puts s f.wire (writeFrame l s f) := by
  have hwrite := writeAll_puts h f.wire
  have hflush := flush_puts hwrite.isWilling
  rw [writeFrame_flushed hf hwrite.done]
  refine ⟨hflush.done, hflush.isWilling, ?_⟩
  rw [hflush.accepted, List.append_nil, hwrite.accepted]

/-- Frame after frame, every call goes well, and the sink has their wire forms one after the other. -/
lemma writeEach_puts (h : s.IsWilling) (hfs : ∀ f ∈ fs, l.refusal? f = none) :
    (writeEach l s fs).1 = fs.map (fun _ => .ok ()) ∧
      (writeEach l s fs).2.accepted = s.accepted ++ fs.flatMap Frame.wire := by
  induction fs generalizing s with
  | nil => simp [writeEach]
  | cons f fs ih =>
    have hf := writeFrame_puts h (hfs f (List.mem_cons_self ..))
    obtain ⟨hdone, hacc⟩ := ih hf.isWilling fun g hg => hfs g (List.mem_cons_of_mem _ hg)
    simp only [writeEach, hf.done, hdone, hacc, hf.accepted, List.map_cons, List.flatMap_cons,
      List.append_assoc, and_self]

end Writer

end FrameLink
