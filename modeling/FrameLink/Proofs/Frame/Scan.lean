import FrameLink.Proofs.Frame.Decode
import FrameLink.Frame.Scanner

/-!
One scan, and asking for frames until there are none.

What a scan finds in a buffer it also finds when more bytes follow, and a scan that has to wait may
as well be made again from where it stopped. Both hold whether or not the longer buffer is the whole
stream, so they carry over to a stream that ends.
-/

namespace FrameLink.Scanner

open FrameLink.Frame

variable {l : Limits} {b r : Bytes} {t t' : ScanTally} {f : Frame} {e : Bool}

/-! ### One scan -/

@[simp] lemma scan_nil (t : ScanTally) : scan l e [] t = (none, [], t) := rfl

lemma scan_junk {x : UInt8} (h : x ≠ marker) :
    scan l e (x :: b) t = scan l e b t.discard := if_pos h

/-- At a marker all depends on what can be read off the front. -/
lemma scan_marker : scan l e (marker :: b) t =
    match decode l (marker :: b) with
    | .frame f r => (some f, r, t.found)
    | .rejected cause => scan l e b (t.refuse cause).discard
    | .needMore => if e then scan l e b t.discard else (none, marker :: b, t) :=
  if_neg (not_not_intro rfl)

lemma scan_of_frame (h : decode l (marker :: b) = .frame f r) :
    scan l e (marker :: b) t = (some f, r, t.found) := by
  rw [scan_marker, h]

lemma scan_of_rejected {cause : Rejection} (h : decode l (marker :: b) = .rejected cause) :
    scan l e (marker :: b) t = scan l e b (t.refuse cause).discard := by
  rw [scan_marker, h]

lemma scan_of_needMore (h : decode l (marker :: b) = .needMore) :
    scan l e (marker :: b) t =
      if e then scan l e b t.discard else (none, marker :: b, t) := by
  rw [scan_marker, h]

/-- A frame that is found without waiting is found whatever follows. -/
lemma scan_append_of_some (h : scan l false b t = (some f, r, t')) (c : Bytes) :
    scan l e (b ++ c) t = (some f, r ++ c, t') := by
  induction b generalizing t with
  | nil => simp at h
  | cons x b ih =>
    rw [List.cons_append]
    by_cases hx : x = marker
    · subst hx
      cases hd : decode l (marker :: b) with
      | frame g rest =>
        rw [scan_of_frame hd] at h
        simp only [Prod.mk.injEq, Option.some.injEq] at h
        obtain ⟨rfl, rfl, rfl⟩ := h
        exact scan_of_frame (decode_append_of_frame hd c)
      | rejected cause =>
        have hd' : decode l (marker :: (b ++ c)) = .rejected cause :=
          decode_append_of_rejected hd c
        rw [scan_of_rejected hd] at h
        rw [scan_of_rejected hd']
        exact ih h
      | needMore => simp [scan_of_needMore hd] at h
    · rw [scan_junk hx] at h ⊢
      exact ih h

/-- A scan that has to wait leaves off at a place from which it can be made again, with more bytes
or at the end of the stream. -/
lemma scan_append_of_none (h : scan l false b t = (none, r, t')) (c : Bytes) :
    scan l e (b ++ c) t = scan l e (r ++ c) t' := by
  induction b generalizing t with
  | nil =>
    simp only [scan_nil, Prod.mk.injEq, true_and] at h
    obtain ⟨rfl, rfl⟩ := h
    rfl
  | cons x b ih =>
    by_cases hx : x = marker
    · subst hx
      cases hd : decode l (marker :: b) with
      | frame g rest => simp [scan_of_frame hd] at h
      | rejected cause =>
        have hd' : decode l (marker :: (b ++ c)) = .rejected cause :=
          decode_append_of_rejected hd c
        rw [scan_of_rejected hd] at h
        rw [List.cons_append, scan_of_rejected hd']
        exact ih h
      | needMore =>
        simp only [scan_of_needMore hd, Bool.false_eq_true, if_false, Prod.mk.injEq, true_and] at h
        obtain ⟨rfl, rfl⟩ := h
        rfl
    · rw [scan_junk hx] at h
      rw [List.cons_append, scan_junk hx]
      exact ih h

/-- A frame takes its bytes out of the buffer. -/
lemma length_of_scan (h : scan l e b t = (some f, r, t')) : r.length < b.length := by
  induction b generalizing t with
  | nil => simp at h
  | cons x b ih =>
    by_cases hx : x = marker
    · subst hx
      cases hd : decode l (marker :: b) with
      | frame g rest =>
        rw [scan_of_frame hd] at h
        simp only [Prod.mk.injEq, Option.some.injEq] at h
        obtain ⟨rfl, rfl, rfl⟩ := h
        rw [(wire_of_decode hd).1, List.length_append, length_wire]
        have := g.wireSize_pos
        omega
      | rejected cause =>
        rw [scan_of_rejected hd] at h
        exact Nat.lt_succ_of_lt (ih h)
      | needMore =>
        rw [scan_of_needMore hd] at h
        split at h
        · exact Nat.lt_succ_of_lt (ih h)
        · simp at h
    · rw [scan_junk hx] at h
      exact Nat.lt_succ_of_lt (ih h)

/-- At the end of a stream a byte either begins the frame that is found, or is thrown away because
no admitted frame begins with it. -/
lemma scan_end_cons (l : Limits) (x : UInt8) (b : Bytes) (t : ScanTally) :
    (∃ f r, x :: b = f.wire ++ r ∧ l.Admits f ∧ scan l true (x :: b) t = (some f, r, t.found)) ∨
    ∃ u, scan l true (x :: b) t = scan l true b u ∧ ∀ g, l.Admits g → ¬ g.wire <+: x :: b := by
  by_cases hx : x = marker
  · subst hx
    cases hd : decode l (marker :: b) with
    | frame f r =>
      obtain ⟨hb, hf⟩ := wire_of_decode hd
      exact Or.inl ⟨f, r, hb, hf, scan_of_frame hd⟩
    | rejected cause =>
      exact Or.inr ⟨_, scan_of_rejected hd, fun g hg => not_wire_front_of_rejected hd hg⟩
    | needMore =>
      refine Or.inr ⟨t.discard, ?_, fun g hg => not_wire_front_of_needMore hd hg⟩
      rw [scan_of_needMore hd, if_pos rfl]
  · exact Or.inr ⟨_, scan_junk hx, fun g _ hp => hx (head_of_wire_front hp)⟩

/-- A scan that finds nothing at the end of the stream has thrown everything away. -/
lemma rest_of_scan_end (h : scan l true b t = (none, r, t')) : r = [] := by
  induction b generalizing t with
  | nil => simpa [eq_comm] using congrArg (·.2.1) h
  | cons x b ih =>
    rcases scan_end_cons l x b t with ⟨f, r', -, -, hs⟩ | ⟨u, hs, -⟩
    · simp [hs] at h
    · exact ih (hs ▸ h)

/-! ### A scanner that is asked once -/

/-- A scanner that has seen nothing yet. -/
def fresh (l : Limits) : Scanner := { limits := l }

variable {s s' : Scanner}

@[simp] lemma push_nil (s : Scanner) : s.push [] = s := by simp [push]

lemma push_push (s : Scanner) (b c : Bytes) : (s.push b).push c = s.push (b ++ c) := by
  simp [push]

lemma advance_eq_iff {f? : Option Frame} :
    s.advance e = (f?, s') ↔
      s'.limits = s.limits ∧ scan s.limits e s.buffer s.tally = (f?, s'.buffer, s'.tally) := by
  obtain ⟨l', b', t'⟩ := s'
  simp only [advance, Scanner.mk.injEq, Prod.ext_iff]
  constructor
  · rintro ⟨h1, rfl, h2, h3⟩
    exact ⟨rfl, h1, h2, h3⟩
  · rintro ⟨rfl, h1, h2, h3⟩
    exact ⟨h1, rfl, h2, h3⟩

lemma advance_push_of_some (h : s.next = (some f, s')) (c : Bytes) :
    (s.push c).advance e = (some f, s'.push c) := by
  obtain ⟨hl, hs⟩ := advance_eq_iff.mp h
  exact advance_eq_iff.mpr ⟨hl, scan_append_of_some hs c⟩

lemma advance_push_of_none (h : s.next = (none, s')) (c : Bytes) :
    (s.push c).advance e = (s'.push c).advance e := by
  obtain ⟨hl, hs⟩ := advance_eq_iff.mp h
  have hp := scan_append_of_none (e := e) hs c
  simp only [advance, push, hl, hp]

lemma next_push_of_none (h : s.next = (none, s')) (c : Bytes) :
    (s.push c).next = (s'.push c).next :=
  advance_push_of_none h c

/-- A scanner that has to wait goes on waiting until bytes are pushed. -/
lemma next_of_next_none (h : s.next = (none, s')) : s'.next = (none, s') := by
  have hp := next_push_of_none h []
  rw [push_nil, push_nil] at hp
  rw [← hp, h]

/-- At the end of a stream complete frames come as they would have come before it. -/
lemma finish_of_next_some (h : s.next = (some f, s')) : s.finish = (some f, s') := by
  have hp := advance_push_of_some (e := true) h []
  rwa [push_nil, push_nil] at hp

/-- Waiting before the end of a stream changes nothing in what comes at its end. -/
lemma finish_of_next_none (h : s.next = (none, s')) : s.finish = s'.finish := by
  have hp := advance_push_of_none (e := true) h []
  rwa [push_nil, push_nil] at hp

lemma length_of_advance (h : s.advance e = (some f, s')) :
    s'.buffer.length < s.buffer.length :=
  length_of_scan (advance_eq_iff.mp h).2

/-! ### A scanner that is asked until it has no more -/

/-- Asking a scanner until it gives none yields these frames and leaves this scanner. -/
inductive Exhausts (ask : Scanner → Option Frame × Scanner) :
    Scanner → List Frame → Scanner → Prop where
  | stop {s s' : Scanner} (h : ask s = (none, s')) : Exhausts ask s [] s'
  | more {s s' s'' : Scanner} {f : Frame} {fs : List Frame} (h : ask s = (some f, s'))
      (rest : Exhausts ask s' fs s'') : Exhausts ask s (f :: fs) s''

variable {ask : Scanner → Option Frame × Scanner} {fs gs : List Frame} {u v : Scanner}

/-- The answers depend on the first answer only. -/
lemma Exhausts.congr (h : Exhausts ask s fs u) (hs : ask s = ask s') : Exhausts ask s' fs u := by
  cases h with
  | stop h => exact .stop (hs ▸ h)
  | more h rest => exact .more (hs ▸ h) rest

lemma Exhausts.unique (h : Exhausts ask s fs u) (h' : Exhausts ask s gs v) : fs = gs ∧ u = v := by
  induction h generalizing gs with
  | stop h =>
    cases h' with
    | stop h' => exact ⟨rfl, congrArg Prod.snd (h.symm.trans h')⟩
    | more h' _ => simp [h] at h'
  | more h _ ih =>
    cases h' with
    | stop h' => simp [h] at h'
    | more h' rest =>
      rw [h] at h'
      simp only [Prod.mk.injEq, Option.some.injEq] at h'
      obtain ⟨rfl, rfl⟩ := h'
      obtain ⟨rfl, rfl⟩ := ih rest
      exact ⟨rfl, rfl⟩

lemma collect_exhausts (hask : ∀ {s f s'}, ask s = (some f, s') → s'.buffer.length < s.buffer.length)
    {n : Nat} (hn : s.buffer.length < n) :
    Exhausts ask s (collect ask n s).1 (collect ask n s).2 := by
  induction n generalizing s with
  | zero => omega
  | succ n ih =>
    cases h : ask s with
    | mk f? s' =>
      cases f? with
      | none =>
        simp only [collect, h]
        exact .stop h
      | some f =>
        have hlen := hask h
        simp only [collect, h]
        exact .more h (ih (by omega))

lemma drain_exhausts (s : Scanner) : Exhausts next s s.drain.1 s.drain.2 :=
  collect_exhausts length_of_advance (Nat.lt_succ_self _)

lemma drainEnd_exhausts (s : Scanner) : Exhausts finish s s.drainEnd.1 s.drainEnd.2 :=
  collect_exhausts length_of_advance (Nat.lt_succ_self _)

lemma drain_eq_iff : s.drain = (fs, u) ↔ Exhausts next s fs u := by
  constructor
  · intro h
    have := drain_exhausts s
    rwa [h] at this
  · intro h
    obtain ⟨h1, h2⟩ := (drain_exhausts s).unique h
    exact Prod.ext h1 h2

lemma drainEnd_eq_iff : s.drainEnd = (fs, u) ↔ Exhausts finish s fs u := by
  constructor
  · intro h
    have := drainEnd_exhausts s
    rwa [h] at this
  · intro h
    obtain ⟨h1, h2⟩ := (drainEnd_exhausts s).unique h
    exact Prod.ext h1 h2

/-- At the end of a stream the frames come one by one. -/
lemma drainEnd_of_finish_some (h : s.finish = (some f, s')) :
    s.drainEnd.1 = f :: s'.drainEnd.1 := by
  have hmore := Exhausts.more h (drainEnd_exhausts s')
  rw [drainEnd_eq_iff.mpr hmore]

lemma drainEnd_of_finish_none (h : s.finish = (none, s')) : s.drainEnd.1 = [] := by
  rw [drainEnd_eq_iff.mpr (.stop h)]

/-- Asked to the end before some bytes are pushed and after it, a scanner gives what it would have given
had they been there from the beginning. -/
lemma Exhausts.push {c : Bytes} (h : Exhausts next s fs u)
    (h' : Exhausts (advance · e) (u.push c) gs v) : Exhausts (advance · e) (s.push c) (fs ++ gs) v := by
  induction h with
  | stop h => exact h'.congr (advance_push_of_none h c).symm
  | more h _ ih => exact .more (advance_push_of_some h c) (ih h')

/-- Asked before the end of a stream and then after it, a scanner gives what it would have given had
the end been known from the beginning. -/
lemma Exhausts.finish_of_next (h : Exhausts next s fs u) (h' : Exhausts finish u gs v) :
    Exhausts finish s (fs ++ gs) v := by
  have hp := h.push (c := []) (e := true) (by rwa [push_nil])
  rwa [push_nil] at hp

lemma drainEnd_eq (s : Scanner) :
    s.drainEnd = (s.drain.1 ++ s.drain.2.drainEnd.1, s.drain.2.drainEnd.2) :=
  drainEnd_eq_iff.mpr ((drain_exhausts s).finish_of_next (drainEnd_exhausts _))

end FrameLink.Scanner
