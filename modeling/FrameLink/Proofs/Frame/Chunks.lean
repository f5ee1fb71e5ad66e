import FrameLink.Proofs.Frame.Scan

/-!
A scanner does not notice how its stream was cut into pieces, or when it was asked for frames.
-/

namespace FrameLink.Scanner

/-- What is done with a scanner while its stream comes in. -/
inductive Use where
  | push (b : Bytes)
  | next

/-- The stream that some uses push. -/
def pushed : List Use → Bytes
  | [] => []
  | .push b :: us => b ++ pushed us
  | .next :: us => pushed us

/-- The frames that some uses yield, and the scanner after them. -/
def undergo (s : Scanner) : List Use → List Frame × Scanner
  | [] => ([], s)
  | .push b :: us => (s.push b).undergo us
  | .next :: us => (s.next.1.toList ++ (s.next.2.undergo us).1, (s.next.2.undergo us).2)

variable {s u : Scanner} {fs : List Frame}

lemma undergo_next_of_some {s' : Scanner} {f : Frame} (h : s.next = (some f, s')) (us : List Use) :
    s.undergo (.next :: us) = (f :: (s'.undergo us).1, (s'.undergo us).2) := by
  simp [undergo, h]

lemma undergo_next_of_none {s' : Scanner} (h : s.next = (none, s')) (us : List Use) :
    s.undergo (.next :: us) = s'.undergo us := by
  simp [undergo, h]

lemma pushed_append (us vs : List Use) : pushed (us ++ vs) = pushed us ++ pushed vs := by
  induction us with
  | nil => rfl
  | cons use us ih => cases use <;> simp [pushed, ih]

lemma undergo_append (s : Scanner) (us vs : List Use) :
    s.undergo (us ++ vs) =
      ((s.undergo us).1 ++ ((s.undergo us).2.undergo vs).1, ((s.undergo us).2.undergo vs).2) := by
  induction us generalizing s with
  | nil => rfl
  | cons use us ih => cases use <;> simp [undergo, ih]

/-- Asked to the end after any uses, whether or not the stream is over by then, a scanner has given
what it would have given had the whole stream been there from the beginning. -/
lemma exhausts_of_undergo {e : Bool} (us : List Use)
    (h : Exhausts (advance · e) (s.undergo us).2 fs u) :
    Exhausts (advance · e) (s.push (pushed us)) ((s.undergo us).1 ++ fs) u := by
  -- a request in the middle answers as it would with the rest of the stream behind it
  induction us generalizing s with
  | nil => simpa [pushed, undergo] using h
  | cons use us ih =>
    cases use with
    | push b =>
      rw [pushed, ← push_push]
      exact ih h
    | next =>
      cases hn : s.next with
      | mk f? s' =>
        cases f? with
        | none =>
          rw [undergo_next_of_none hn] at h ⊢
          exact (ih h).congr (advance_push_of_none hn _).symm
        | some f =>
          rw [undergo_next_of_some hn] at h ⊢
          exact .more (advance_push_of_some hn _) (ih h)

lemma drain_undergo (s : Scanner) (us : List Use) :
    ((s.undergo us).1 ++ (s.undergo us).2.drain.1, (s.undergo us).2.drain.2) =
      (s.push (pushed us)).drain :=
  (drain_eq_iff.mpr (exhausts_of_undergo us (drain_exhausts _))).symm

lemma drain_push (s : Scanner) (c : Bytes) :
    (s.push c).drain = (s.drain.1 ++ (s.drain.2.push c).drain.1, (s.drain.2.push c).drain.2) :=
  drain_eq_iff.mpr ((drain_exhausts s).push (drain_exhausts _))

/-- **The cuts of a stream do not matter.** Two fresh scanners that were given the same stream in
any pieces, and were asked for frames at any times, have yielded the same frames once they are asked
to the end, and are then equal in their buffers and in all counters; the same holds when the stream
ends and they are emptied. -/
theorem cuts_do_not_matter (l : Limits) (us vs : List Use) (h : pushed us = pushed vs) :
    let a := (fresh l).undergo us
    let b := (fresh l).undergo vs
    Exhausts Scanner.next a.2 a.2.drain.1 a.2.drain.2 ∧
    Exhausts Scanner.next b.2 b.2.drain.1 b.2.drain.2 ∧
    a.1 ++ a.2.drain.1 = b.1 ++ b.2.drain.1 ∧
    a.2.drain.2.buffer = b.2.drain.2.buffer ∧
    a.2.drain.2.tally = b.2.drain.2.tally ∧
    Exhausts finish a.2.drain.2 a.2.drain.2.drainEnd.1 a.2.drain.2.drainEnd.2 ∧
    Exhausts finish b.2.drain.2 b.2.drain.2.drainEnd.1 b.2.drain.2.drainEnd.2 ∧
    a.2.drain.2.drainEnd.1 = b.2.drain.2.drainEnd.1 ∧
    a.2.drain.2.drainEnd.2.buffer = b.2.drain.2.drainEnd.2.buffer ∧
    a.2.drain.2.drainEnd.2.tally = b.2.drain.2.drainEnd.2.tally := by
  intro a b
  have hab : (a.1 ++ a.2.drain.1, a.2.drain.2) = (b.1 ++ b.2.drain.1, b.2.drain.2) := by
    rw [drain_undergo, drain_undergo, h]
  obtain ⟨hf, hs⟩ := Prod.mk.inj hab
  refine ⟨drain_exhausts _, drain_exhausts _, hf, ?_, ?_, drainEnd_exhausts _,
    drainEnd_exhausts _, ?_, ?_, ?_⟩ <;> rw [hs]

/-- A frame behind junk, cut inside the markers, the header and the trailer, and in one piece. -/
theorem cuts_do_not_matter_three_cuts :
    let us : List Use := [.push [0x00, 0xFF], .next, .push [0xFF, 0xFF, 0x12], .next, .push [],
      .push [0x00, 0x00], .next, .next, .push [0x12, 0xFF]]
    let vs : List Use := [.push [0x00, 0xFF, 0xFF, 0xFF, 0x12, 0x00, 0x00, 0x12, 0xFF], .next]
    let a := (fresh {}).undergo us
    let b := (fresh {}).undergo vs
    pushed us = pushed vs ∧
    a.1 ++ a.2.drain.1 = b.1 ++ b.2.drain.1 ∧
    a.2.drain.2.buffer = b.2.drain.2.buffer ∧
    a.2.drain.2.tally = b.2.drain.2.tally := by
  intro us vs a b
  have h := cuts_do_not_matter {} us vs rfl
  exact ⟨rfl, h.2.2.1, h.2.2.2.1, h.2.2.2.2.1⟩

end FrameLink.Scanner
