import Mathlib.Algebra.BigOperators.Group.List.Basic
import Mathlib.Algebra.GroupWithZero.Nat
import FrameLink.Proofs.Frame.Scan

/-!
Where the bytes of a scanner go.

Every byte that is pushed comes out inside a frame, or is discarded and counted, or is dropped by a
clear, or is still in the buffer; and the stream itself is those pieces one behind the other.
-/

namespace FrameLink

namespace ScanTally

/-- How often the front of the buffer was refused, for whatever cause. -/
def refusals (t : ScanTally) : Nat :=
  t.invalidMarkers + t.invalidKinds + t.invalidLengths + t.checksumMismatches

variable {t : ScanTally} {cause : Rejection}

@[simp] lemma discarded_discard : t.discard.discarded = t.discarded + 1 := rfl
@[simp] lemma frames_discard : t.discard.frames = t.frames := rfl
@[simp] lemma refusals_discard : t.discard.refusals = t.refusals := rfl

@[simp] lemma discarded_found : t.found.discarded = t.discarded := rfl
@[simp] lemma frames_found : t.found.frames = t.frames + 1 := rfl
@[simp] lemma refusals_found : t.found.refusals = t.refusals := rfl

@[simp] lemma discarded_refuse : (t.refuse cause).discarded = t.discarded := by cases cause <;> rfl
@[simp] lemma frames_refuse : (t.refuse cause).frames = t.frames := by cases cause <;> rfl

@[simp] lemma refusals_refuse : (t.refuse cause).refusals = t.refusals + 1 := by
  cases cause <;> simp only [refuse, refusals] <;> omega

end ScanTally

namespace Scanner

open FrameLink.Frame

variable {l : Limits} {b r : Bytes} {t t' : ScanTally} {f? : Option Frame} {e : Bool}

/-! ### One scan -/

/-- What a tally notes of some bytes that are skipped, and of a frame if one stands behind them. -/
structure Notes (t : ScanTally) (skipped : Bytes) (f? : Option Frame) (t' : ScanTally) : Prop where
  discarded : t'.discarded = t.discarded + skipped.length
  frames : t'.frames = t.frames + f?.toList.length
  refusals : t'.refusals ≤ t.refusals + skipped.length

lemma Notes.none (t : ScanTally) : Notes t [] none t := ⟨rfl, rfl, Nat.le_refl _⟩

lemma Notes.found (t : ScanTally) (f : Frame) : Notes t [] (some f) t.found :=
  ⟨rfl, rfl, Nat.le_refl _⟩

/-- A byte is skipped with at most one refusal. -/
lemma Notes.cons {u : ScanTally} {skipped : Bytes} (h : Notes u skipped f? t')
    (hd : u.discarded = t.discarded + 1) (hf : u.frames = t.frames)
    (hr : u.refusals ≤ t.refusals + 1) (x : UInt8) : Notes t (x :: skipped) f? t' := by
  obtain ⟨h1, h2, h3⟩ := h
  refine ⟨?_, ?_, ?_⟩
  · rw [h1, hd, List.length_cons]
    omega
  · rw [h2, hf]
  · rw [List.length_cons]
    omega

/-- A scan takes bytes off the front of the buffer, discards and counts them, and then takes at most
one frame. -/
lemma scan_splits (l : Limits) (e : Bool) (b : Bytes) (t : ScanTally) : ∃ skipped,
    b = skipped ++ (scan l e b t).1.toList.flatMap wire ++ (scan l e b t).2.1 ∧
    Notes t skipped (scan l e b t).1 (scan l e b t).2.2 := by
  induction b generalizing t with
  | nil => exact ⟨[], rfl, .none t⟩
  | cons x b ih =>
    -- the scan goes on behind a byte that is discarded
    have skip {u : ScanTally} (hu : scan l e (x :: b) t = scan l e b u)
        (hd : u.discarded = t.discarded + 1) (hf : u.frames = t.frames)
        (hr : u.refusals ≤ t.refusals + 1) : ∃ skipped,
        x :: b = skipped ++ (scan l e (x :: b) t).1.toList.flatMap wire ++
          (scan l e (x :: b) t).2.1 ∧
        Notes t skipped (scan l e (x :: b) t).1 (scan l e (x :: b) t).2.2 := by
      obtain ⟨skipped, hb, hn⟩ := ih u
      rw [hu]
      exact ⟨x :: skipped, congrArg (x :: ·) hb, hn.cons hd hf hr x⟩
    by_cases hx : x = marker
    · subst hx
      cases hd : decode l (marker :: b) with
      | frame f rest =>
        rw [scan_of_frame hd]
        refine ⟨[], ?_, .found t f⟩
        simpa using (wire_of_decode hd).1
      | rejected cause =>
        exact skip (scan_of_rejected hd) (by simp) (by simp) (by simp)
      | needMore =>
        cases e with
        | false =>
          rw [scan_of_needMore hd]
          exact ⟨[], rfl, .none t⟩
        | true => exact skip (scan_of_needMore hd) (by simp) (by simp) (by simp)
    · exact skip (scan_junk hx) (by simp) (by simp) (by simp)

lemma advance_splits (s : Scanner) (e : Bool) : ∃ skipped,
    s.buffer = skipped ++ (s.advance e).1.toList.flatMap wire ++ (s.advance e).2.buffer ∧
    Notes s.tally skipped (s.advance e).1 (s.advance e).2.tally :=
  scan_splits s.limits e s.buffer s.tally

/-! ### Everything that is done with a scanner -/

/-- What can be done with a scanner. -/
inductive Call where
  | push (b : Bytes)
  | next
  | finish
  | clear
  deriving DecidableEq

/-- A scanner, what was pushed into it, the frames it yielded, and how many bytes were cleared. -/
structure Account where
  scanner : Scanner
  pushed : Bytes := []
  yielded : List Frame := []
  cleared : Nat := 0

namespace Account

def fresh (l : Limits) : Account := { scanner := Scanner.fresh l }

/-- The account after a request that came back with a frame or with none. -/
def answered (a : Account) (answer : Option Frame × Scanner) : Account :=
  { a with scanner := answer.2, yielded := a.yielded ++ answer.1.toList }

def call (a : Account) : Call → Account
  | .push b => { a with scanner := a.scanner.push b, pushed := a.pushed ++ b }
  | .next => a.answered a.scanner.next
  | .finish => a.answered a.scanner.finish
  | .clear =>
    { a with scanner := a.scanner.clear, cleared := a.cleared + a.scanner.buffer.length }

def run (a : Account) (calls : List Call) : Account := calls.foldl call a

/-- The stream in pieces: every frame with the gap before it, and the gap behind the last frame. -/
structure Pieces where
  frames : List (Bytes × Frame) := []
  last : Bytes := []

namespace Pieces

def bytes (p : Pieces) : Bytes := p.frames.flatMap (fun x => x.1 ++ x.2.wire) ++ p.last

/-- The lengths of all gaps together. -/
def gaps (p : Pieces) : Nat := (p.frames.map (·.1.length)).sum + p.last.length

/-- Some bytes go into the gap behind the last frame, and a frame ends that gap. -/
def extend (p : Pieces) (skipped : Bytes) : Option Frame → Pieces
  | none => { p with last := p.last ++ skipped }
  | some f => { frames := p.frames ++ [(p.last ++ skipped, f)] }

variable {p : Pieces} {skipped : Bytes}

lemma bytes_extend (p : Pieces) (skipped : Bytes) (f? : Option Frame) :
    (p.extend skipped f?).bytes = p.bytes ++ (skipped ++ f?.toList.flatMap wire) := by
  cases f? <;> simp [extend, bytes]

lemma gaps_extend (p : Pieces) (skipped : Bytes) (f? : Option Frame) :
    (p.extend skipped f?).gaps = p.gaps + skipped.length := by
  cases f? <;> simp [extend, gaps] <;> omega

lemma frames_extend (p : Pieces) (skipped : Bytes) (f? : Option Frame) :
    (p.extend skipped f?).frames.map (·.2) = p.frames.map (·.2) ++ f?.toList := by
  cases f? <;> simp [extend]

/-- The stream is as long as its frames on the wire and its gaps. -/
lemma length_bytes (p : Pieces) :
    p.bytes.length = ((p.frames.map (·.2)).map wireSize).sum + p.gaps := by
  obtain ⟨frames, last⟩ := p
  simp only [bytes, gaps, List.length_append, ← Nat.add_assoc, Nat.add_right_cancel_iff]
  induction frames with
  | nil => rfl
  | cons x frames ih =>
    simp only [List.flatMap_cons, List.length_append, List.map_cons, List.sum_cons, length_wire]
    omega

end Pieces

/-- The pushed bytes are these pieces and then the buffer. What is in the gaps was discarded or
cleared, and no byte was discarded with more than one refusal. -/
structure Balanced (a : Account) (p : Pieces) : Prop where
  pushed : a.pushed = p.bytes ++ a.scanner.buffer
  yielded : p.frames.map (·.2) = a.yielded
  gaps : p.gaps = a.scanner.tally.discarded + a.cleared
  counted : a.scanner.tally.frames = a.yielded.length
  refusals : a.scanner.tally.refusals ≤ a.scanner.tally.discarded

variable {a : Account} {p : Pieces}

lemma balanced_fresh (l : Limits) : (fresh l).Balanced {} :=
  ⟨rfl, rfl, rfl, rfl, Nat.le_refl _⟩

/-- Asked for a frame, whether or not the stream is over, a scanner moves bytes from the buffer into
the pieces. -/
lemma Balanced.advance (h : a.Balanced p) (e : Bool) :
    ∃ p', (a.answered (a.scanner.advance e)).Balanced p' := by
  obtain ⟨skipped, hb, hn⟩ := advance_splits a.scanner e
  refine ⟨p.extend skipped (a.scanner.advance e).1, ?_, ?_, ?_, ?_, ?_⟩
  · calc a.pushed
        = p.bytes ++ a.scanner.buffer := h.pushed
      _ = p.bytes ++ (skipped ++ (a.scanner.advance e).1.toList.flatMap wire) ++
            (a.scanner.advance e).2.buffer := by
          rw [List.append_assoc, ← hb]
      _ = _ := by
          rw [← Pieces.bytes_extend]
          rfl
  · rw [Pieces.frames_extend, h.yielded]
    rfl
  · have hg := h.gaps
    have hd := hn.discarded
    rw [Pieces.gaps_extend]
    simp only [answered]
    omega
  · have hc := h.counted
    have hf := hn.frames
    simp only [answered, List.length_append]
    omega
  · have hr := h.refusals
    have hd := hn.discarded
    have hle := hn.refusals
    simp only [answered]
    omega

/-- What is cleared joins the gap behind the last frame. -/
lemma Balanced.clear (h : a.Balanced p) :
    (a.call .clear).Balanced (p.extend a.scanner.buffer none) := by
  refine ⟨?_, ?_, ?_, h.counted, h.refusals⟩
  · rw [Pieces.bytes_extend]
    simpa [call, Scanner.clear] using h.pushed
  · rw [Pieces.frames_extend, h.yielded]
    exact List.append_nil _
  · rw [Pieces.gaps_extend, h.gaps]
    exact Nat.add_assoc _ _ _

lemma Balanced.call (h : a.Balanced p) (c : Call) : ∃ p', (a.call c).Balanced p' := by
  cases c with
  | push b =>
    refine ⟨p, ?_, h.yielded, h.gaps, h.counted, h.refusals⟩
    simp only [Account.call, Scanner.push]
    rw [h.pushed, List.append_assoc]
  | next => exact h.advance false
  | finish => exact h.advance true
  | clear => exact ⟨_, h.clear⟩

lemma Balanced.run (h : a.Balanced p) (calls : List Call) : ∃ p', (a.run calls).Balanced p' := by
  induction calls generalizing a p with
  | nil => exact ⟨p, h⟩
  | cons c calls ih =>
    obtain ⟨p', h'⟩ := h.call c
    exact ih h'

/-- Only a clear drops bytes that no counter knows of. -/
lemma cleared_run {calls : List Call} (hc : Call.clear ∉ calls) (a : Account) :
    (a.run calls).cleared = a.cleared := by
  induction calls generalizing a with
  | nil => rfl
  | cons c calls ih =>
    rw [List.mem_cons, not_or] at hc
    refine (ih hc.2 (a.call c)).trans ?_
    cases c with
    | push b | next | finish => rfl
    | clear => exact absurd rfl hc.1

/-- How many bytes were pushed, by where they are now. -/
lemma Balanced.length_pushed (h : a.Balanced p) : a.pushed.length =
    (a.yielded.map wireSize).sum + a.scanner.tally.discarded + a.scanner.buffer.length +
      a.cleared := by
  have hl := p.length_bytes
  have hg := h.gaps
  rw [h.yielded] at hl
  rw [h.pushed, List.length_append]
  omega

/-- No counter runs ahead of the bytes that were pushed. -/
lemma Balanced.counters_le (h : a.Balanced p) :
    a.scanner.tally.frames ≤ a.pushed.length ∧ a.scanner.tally.discarded ≤ a.pushed.length ∧
      a.scanner.tally.refusals ≤ a.pushed.length := by
  have hlength := h.length_pushed
  have hframes : a.yielded.length ≤ (a.yielded.map wireSize).sum := by
    simpa using List.length_le_sum_of_one_le (a.yielded.map wireSize)
      fun n hn => by
        obtain ⟨f, -, rfl⟩ := List.mem_map.mp hn
        exact f.wireSize_pos
  have hcounted := h.counted
  have hrefusals := h.refusals
  omega

end Account

open Account in
/-- **No byte is lost or counted twice.** Whatever is done with a fresh scanner, the bytes pushed are
as many as the frames it yielded take on the wire, those it discarded, those in its buffer and those
that were cleared; it has counted the frames it yielded, and refused at most once for every byte
discarded. As long as nothing is cleared, the stream is the yielded frames in their order with gaps
before, between and behind them, and then the buffer, and what is in the gaps was discarded. -/
theorem bytes_are_conserved (l : Limits) (calls : List Call) :
    let a := (Account.fresh l).run calls
    a.pushed.length = (a.yielded.map wireSize).sum + a.scanner.tally.discarded +
      a.scanner.buffer.length + a.cleared ∧
    a.scanner.tally.frames = a.yielded.length ∧
    a.scanner.tally.invalidMarkers + a.scanner.tally.invalidKinds +
      a.scanner.tally.invalidLengths + a.scanner.tally.checksumMismatches ≤
        a.scanner.tally.discarded ∧
    (Call.clear ∉ calls → ∃ p : Pieces, p.frames.map (·.2) = a.yielded ∧
      a.pushed = p.frames.flatMap (fun x => x.1 ++ x.2.wire) ++ p.last ++ a.scanner.buffer ∧
      (p.frames.map (·.1.length)).sum + p.last.length = a.scanner.tally.discarded) := by
  intro a
  obtain ⟨p, h⟩ := (balanced_fresh l).run calls
  refine ⟨h.length_pushed, h.counted, h.refusals, fun hclear => ⟨p, h.yielded, h.pushed, ?_⟩⟩
  have hnone : a.cleared = 0 := cleared_run hclear (Account.fresh l)
  have hgaps : p.gaps = a.scanner.tally.discarded + a.cleared := h.gaps
  rwa [hnone, Nat.add_zero] at hgaps

open Account in
/-- A frame between two stray bytes, and the beginning of another that the end of the stream cuts
off: one frame of six bytes, three bytes discarded, and nothing left. -/
theorem bytes_are_conserved_cut_off :
    let calls : List Call := [.push [0x00, 0xFF, 0xFF, 0x12], .next, .push [0x00, 0x00, 0x12, 0x07],
      .next, .push [0xFF], .next, .finish]
    let a := (Account.fresh {}).run calls
    Call.clear ∉ calls ∧ a.scanner.tally.discarded = 3 ∧ a.yielded.length = 1 ∧
    ∃ p : Pieces, p.frames.map (·.2) = a.yielded ∧
      a.pushed = p.frames.flatMap (fun x => x.1 ++ x.2.wire) ++ p.last ++ a.scanner.buffer ∧
      (p.frames.map (·.1.length)).sum + p.last.length = a.scanner.tally.discarded := by
  intro calls a
  have hclear : Call.clear ∉ calls := by decide
  exact ⟨hclear, by decide, by decide, (bytes_are_conserved {} calls).2.2.2 hclear⟩

end Scanner

end FrameLink
