import FrameLink.Proofs.Stream.Reader
import FrameLink.Proofs.Stream.Writer

/-!
A writer and a reader at the two ends of one stream.

Before each request the bytes that the reader holds and those still to come are the wire forms of the
frames that are left. The frame at the front is then what the next request gives, however the bytes
come in; and since the buffer of the scanner always begins a frame, nothing is ever thrown away, whatever
is written in the payloads.
-/

namespace FrameLink

/-! ### A source that gives all it has -/

/-- Bytes come in pieces, with nothing worse than interruptions between them, and then the stream ends. -/
structure Source.IsPatient (s : Source) : Prop where
  isFed : s.IsFed
  ends : s.isLive = false
  interrupted : ∀ e, .failure e ∈ s.script → e.kind = .interrupted

namespace Source

variable {s s' : Source} {n : Nat} {e : IoError}

lemma mem_script_read {item : Inbound} (h : item ∈ (s.read n).2.script) : item ∈ s.script := by
  obtain ⟨script, held, isLive⟩ := s
  match held, script with
  | _ :: _, _ => exact h
  | [], .data _ :: _ | [], .eof :: _ | [], .failure _ :: _ => exact List.mem_cons_of_mem _ h
  | [], [] => exact h

lemma IsPatient.read (h : s.IsPatient) (hr : (s.read n).2 = s') : s'.IsPatient := by
  subst hr
  exact ⟨isFed_read h.isFed n, (isLive_read s n).trans h.ends,
    fun e he => h.interrupted e (mem_script_read he)⟩

lemma IsPatient.interrupted_of_read (h : s.IsPatient) (hr : s.read n = (.failed e, s')) :
    e.kind = .interrupted := by
  obtain ⟨rest, rfl, -, -⟩ := read_failed hr
  exact h.interrupted e (List.mem_cons_self ..)

lemma IsPatient.not_blocked (h : s.IsPatient) : s.read n ≠ (.blocked, s') := fun hr => by
  have hlive := (read_blocked hr).2.2.2
  simp [h.ends] at hlive

/-- A read of no bytes means that no bytes are left. -/
lemma IsPatient.data_of_read_nil (h : s.IsPatient) (hn : 0 < n) (hr : s.read n = (.bytes [], s')) :
    s.data = [] := by
  rw [(read_nil h.isFed hn hr).1]
  rfl

end Source

/-! ### The scanner in a clean stream -/

namespace Scanner

open FrameLink.Frame

variable {s : Scanner} {f : Frame} {c rest : Bytes}

/-- Where the stream goes on with a frame, the scanner finds that frame or waits for the rest of it; it
takes nothing else out of the buffer, and charges nothing else. -/
lemma next_of_clean (hf : s.limits.Admits f) (h : s.buffer ++ c = f.wire ++ rest) :
    (∃ b, s.next = (some f, { s with buffer := b, tally := s.tally.found }) ∧ b ++ c = rest) ∨
    s.next = (none, s) ∧ c ≠ [] := by
  obtain ⟨l, buffer, t⟩ := s
  simp only at hf h
  match buffer, h with
  | [], h =>
    refine Or.inr ⟨rfl, ?_⟩
    rintro rfl
    simp [wire] at h
  | x :: b, h =>
    obtain rfl : x = marker := head_of_wire_front ⟨rest, h.symm⟩
    have hwhole : decode l (marker :: b ++ c) = .frame f rest := by rw [h, decode_wire_append hf]
    cases hd : decode l (marker :: b) with
    | frame g r =>
      rw [decode_append_of_frame hd c, Verdict.frame.injEq] at hwhole
      obtain ⟨rfl, hr⟩ := hwhole
      exact Or.inl ⟨r, advance_eq_iff.mpr ⟨rfl, scan_of_frame hd⟩, hr⟩
    | rejected cause =>
      rw [decode_append_of_rejected hd c] at hwhole
      simp at hwhole
    | needMore =>
      refine Or.inr ⟨advance_eq_iff.mpr ⟨rfl, by simp [scan_of_needMore hd]⟩, ?_⟩
      rintro rfl
      rw [List.append_nil, hd] at hwhole
      simp at hwhole

end Scanner

/-! ### Requests -/

namespace Reader

variable {r : Reader} {f : Frame} {rest : Bytes}

/-- What the reader holds and what is still to come. -/
def remaining (r : Reader) : Bytes := r.scanner.buffer ++ r.source.data

/-- A request that goes by the book, on a source that goes on as before. -/
structure Gives (r : Reader) (o : ReadOutcome) (t : ScanTally) (rest : Bytes) : Prop where
  outcome : r.readFrame.1 = o
  limits : r.readFrame.2.scanner.limits = r.scanner.limits
  tally : r.readFrame.2.scanner.tally = t
  remaining : r.readFrame.2.remaining = rest
  patient : r.readFrame.2.source.IsPatient

/-- A request that goes on as another one gives what that one gives. -/
lemma Gives.of_rest {r' : Reader} {o : ReadOutcome} {t : ScanTally} (h : r'.Gives o t rest)
    (hcall : r.readFrame = r'.readFrame) (hl : r'.scanner.limits = r.scanner.limits) :
    r.Gives o t rest where
  outcome := hcall ▸ h.outcome
  limits := by rw [hcall, h.limits, hl]
  tally := hcall ▸ h.tally
  remaining := hcall ▸ h.remaining
  patient := hcall ▸ h.patient

/-- **The next request gives the frame at the front**, in whatever pieces it comes in. -/
lemma gives_of_wire (hf : r.scanner.limits.Admits f) (hp : r.source.IsPatient)
    (h : r.remaining = f.wire ++ rest) : r.Gives (.frame f) r.scanner.tally.found rest := by
  induction r using readFrame.induct with
  | case1 r g s hn =>
    rcases Scanner.next_of_clean hf h with ⟨b, hb, hrest⟩ | ⟨hnone, -⟩
    · rw [hn, Prod.mk.injEq, Option.some.injEq] at hb
      obtain ⟨rfl, rfl⟩ := hb
      have hcall := (readFrame_found hn).1
      exact ⟨by rw [hcall], by rw [hcall], by rw [hcall], by rw [hcall]; exact hrest,
        by rw [hcall]; exact hp⟩
    · simp [hn] at hnone
  | case2 r s hn source hr => exact absurd hr hp.not_blocked
  | case3 r s hn e source hr he ih =>
    rcases Scanner.next_of_clean hf h with ⟨b, hb, -⟩ | ⟨hnone, -⟩
    · simp [hn] at hb
    · obtain rfl : s = r.scanner := congrArg Prod.snd (hn.symm.trans hnone)
      refine (ih hf (hp.read (congrArg Prod.snd hr)) ?_).of_rest (readFrame_interrupted hn hr he).1 rfl
      simp only [remaining, Source.data_of_read_failed hr]
      exact h
  | case4 r s hn e source hr he => exact absurd (hp.interrupted_of_read hr) he
  | case5 r s hn source hr =>
    rcases Scanner.next_of_clean hf h with ⟨b, hb, -⟩ | ⟨-, hmore⟩
    · simp [hn] at hb
    · exact absurd (hp.data_of_read_nil (by decide) hr) hmore
  | case6 r s hn b bs source hr ih =>
    rcases Scanner.next_of_clean hf h with ⟨c, hc, -⟩ | ⟨hnone, -⟩
    · simp [hn] at hc
    · obtain rfl : s = r.scanner := congrArg Prod.snd (hn.symm.trans hnone)
      have hcall := (readFrame_bytes hn hr (List.cons_ne_nil b bs)).1
      refine (ih hf (hp.read (congrArg Prod.snd hr)) ?_).of_rest hcall rfl
      simp only [remaining, Scanner.push, List.append_assoc, Source.data_of_read_bytes hr]
      exact h

/-- When nothing is left, a request finds the end of the stream, and goes on finding it. -/
lemma gives_of_nothing (hp : r.source.IsPatient) (h : r.remaining = []) :
    r.Gives (.failed .connectionClosed) r.scanner.tally [] := by
  obtain ⟨hbuffer, hdata⟩ := List.append_eq_nil_iff.mp h
  have hscan (e : Bool) : r.scanner.advance e = (none, r.scanner) :=
    Scanner.advance_eq_iff.mpr ⟨rfl, by rw [hbuffer]; rfl⟩
  induction r using readFrame.induct with
  | case1 r g s hn => simp [Scanner.next, hscan] at hn
  | case2 r s hn source hr => exact absurd hr hp.not_blocked
  | case3 r s hn e source hr he ih =>
    obtain rfl : s = r.scanner := congrArg Prod.snd (hn.symm.trans (hscan false))
    have hdata' : source.data = [] := (Source.data_of_read_failed hr).trans hdata
    refine (ih (hp.read (congrArg Prod.snd hr)) ?_ hbuffer hdata' hscan).of_rest
      (readFrame_interrupted hn hr he).1 rfl
    simp [remaining, hbuffer, hdata']
  | case4 r s hn e source hr he => exact absurd (hp.interrupted_of_read hr) he
  | case5 r s hn source hr =>
    obtain rfl : s = r.scanner := congrArg Prod.snd (hn.symm.trans (hscan false))
    have hcall : r.readFrame = (.failed .connectionClosed, ⟨r.scanner, source⟩) := by
      rw [(readFrame_atEnd hn hr).1, atEnd]
      simp [Scanner.finish, hscan]
    have hdata' : source.data = [] := by
      have happ := Source.data_of_read_bytes hr
      rwa [List.nil_append, hdata] at happ
    exact ⟨by rw [hcall], by rw [hcall], by rw [hcall], by rw [hcall]; simp [remaining, hbuffer, hdata'],
      by rw [hcall]; exact hp.read (congrArg Prod.snd hr)⟩
  | case6 r s hn b bs source hr ih =>
    have happ := Source.data_of_read_bytes hr
    rw [hdata] at happ
    simp at happ

/-- Asks for frames a number of times, whatever comes of it. -/
def readEach : Nat → Reader → List ReadOutcome × Reader
  | 0, r => ([], r)
  | n + 1, r => (r.readFrame.1 :: (readEach n r.readFrame.2).1, (readEach n r.readFrame.2).2)

lemma readEach_of_nothing (n : Nat) (hp : r.source.IsPatient) (h : r.remaining = []) :
    (readEach n r).1 = List.replicate n (.failed .connectionClosed) ∧
      (readEach n r).2.scanner.tally = r.scanner.tally := by
  induction n generalizing r with
  | zero => exact ⟨rfl, rfl⟩
  | succ n ih =>
    have hend := gives_of_nothing hp h
    obtain ⟨houtcomes, htally⟩ := ih hend.patient hend.remaining
    exact ⟨by rw [readEach, houtcomes, hend.outcome, List.replicate_succ],
      by rw [readEach, htally, hend.tally]⟩

/-- Requests give the frames that are left, and then the end of the stream as often as it is asked for. -/
lemma readEach_of_wires {fs : List Frame} (n : Nat) (hfs : ∀ f ∈ fs, r.scanner.limits.Admits f)
    (hp : r.source.IsPatient) (h : r.remaining = fs.flatMap Frame.wire) :
    (readEach (fs.length + n) r).1 =
        fs.map .frame ++ List.replicate n (.failed .connectionClosed) ∧
      (readEach (fs.length + n) r).2.scanner.tally =
        { r.scanner.tally with frames := r.scanner.tally.frames + fs.length } := by
  induction fs generalizing r with
  | nil =>
    rw [List.length_nil, Nat.zero_add]
    exact readEach_of_nothing n hp h
  | cons f fs ih =>
    have hfront := gives_of_wire (hfs f (List.mem_cons_self ..)) hp h
    obtain ⟨houtcomes, htally⟩ := ih (r := r.readFrame.2)
      (fun g hg => hfront.limits ▸ hfs g (List.mem_cons_of_mem _ hg)) hfront.patient hfront.remaining
    rw [List.length_cons, Nat.add_right_comm]
    refine ⟨by rw [readEach, houtcomes, hfront.outcome]; rfl, ?_⟩
    rw [readEach, htally, hfront.tally]
    simp only [ScanTally.found, Nat.add_assoc, Nat.add_comm 1]

end Reader

/-! ### From one end to the other -/

lemma Limits.Admits.not_refused {l : Limits} {f : Frame} (h : l.Admits f) : l.refusal? f = none :=
  refusal?_of_fits h.payload h.valid

/-- **A pipe loses nothing.** Frames that the limits admit are written, whatever part of each write
the sink takes and however often it interrupts. Read back under the same limits, in pieces of any size
and with interruptions between them, the bytes give those frames in order and then the end of the
stream, for as many requests as are made; and the reader has counted the frames and nothing else. -/
theorem pipe_loses_nothing (l : Limits) (fs : List Frame) (sink : Sink) (source : Source) (n : Nat)
    (admitted : ∀ f ∈ fs, l.Admits f) (willing : sink.IsWilling) (unused : sink.pieces = [])
    (patient : source.IsPatient) (piped : source.data = (Writer.writeEach l sink fs).2.accepted) :
    (Writer.writeEach l sink fs).1 = fs.map (fun _ => .ok ()) ∧
    (Reader.readEach (fs.length + n) ⟨Scanner.fresh l, source⟩).1 =
      fs.map .frame ++ List.replicate n (.failed .connectionClosed) ∧
    (Reader.readEach (fs.length + n) ⟨Scanner.fresh l, source⟩).2.scanner.tally =
      { frames := fs.length } := by
  obtain ⟨hdone, hacc⟩ := Writer.writeEach_puts willing fun f hf => (admitted f hf).not_refused
  have hwires : source.data = fs.flatMap Frame.wire := by
    rw [piped, hacc, Sink.accepted, unused, List.flatten_nil, List.nil_append]
  obtain ⟨houtcomes, htally⟩ := Reader.readEach_of_wires
    (r := ⟨Scanner.fresh l, source⟩) n admitted patient hwires
  refine ⟨hdone, houtcomes, htally.trans ?_⟩
  simp [Scanner.fresh]

/-- A frame inside the payload of another one, written byte by byte at first, and read back in pieces
that are cut inside both. -/
theorem pipe_loses_nothing_nested :
    let inner : Frame := Frame.empty Kind.shutDown
    let outer : Frame := Frame.sealed ⟨Kind.byteStream, inner.wire ++ [0xFF, 0xFF], 0, by decide⟩
    let interrupted : IoError := ⟨.interrupted, "interrupted"⟩
    let sink : Sink :=
      { writes := [.ok 1, .error interrupted, .ok 5, .ok 1], flushes := [.error interrupted] }
    let source : Source :=
      { script := [.data (outer.wire.take 7), .failure interrupted,
          .data (outer.wire.drop 7 ++ inner.wire.take 3), .data (inner.wire.drop 3)] }
    (Writer.writeEach {} sink [outer, inner]).1 = [.ok (), .ok ()] ∧
    (Reader.readEach 3 ⟨Scanner.fresh {}, source⟩).1 =
      [.frame outer, .frame inner, .failed .connectionClosed] := by
  intro inner outer interrupted sink source
  have willing : sink.IsWilling := by
    refine ⟨rfl, ?_, ?_⟩
    · simp [sink, interrupted]
    · simp [sink, interrupted]
  have patient : source.IsPatient := by
    refine ⟨?_, rfl, ?_⟩
    · intro item hi
      simp only [source, List.mem_cons, List.not_mem_nil, or_false] at hi
      rcases hi with rfl | rfl | rfl | rfl <;> exact ⟨by simp, by decide⟩
    · simp [source, interrupted]
  have admitted : ∀ f ∈ [outer, inner], ({} : Limits).Admits f := by decide
  have piped : source.data = (Writer.writeEach {} sink [outer, inner]).2.accepted := by
    rw [(Writer.writeEach_puts willing fun f hf => (admitted f hf).not_refused).2]
    decide
  have h := pipe_loses_nothing {} [outer, inner] sink source 1 admitted willing rfl patient piped
  exact ⟨h.1, h.2.1⟩

end FrameLink
