import FrameLink.Proofs.Frame.Leftmost

/-!
What a scanner finds in the bytes that are there, while more may come.

The reading of the bytes so far goes from place to place like the reading of a whole stream, but each
place that it passes over is refused whatever follows, and it stops at the first place where more bytes
have to be waited for. It is a front of the leftmost reading of every stream that goes on from these
bytes.
-/

namespace FrameLink.Scanner

open FrameLink.Frame

/-- No frame begins at a place of the bytes so far, whatever follows them. -/
def Refused (l : Limits) (d : Bytes) (i : Nat) : Prop :=
  ∃ cause, decode l (d.drop i) = .rejected cause

/-- The leftmost greedy reading of the bytes so far, from a position on. -/
inductive Decided (l : Limits) (d : Bytes) : Nat → List (Nat × Frame) → Prop where
  | stop {pos i : Nat} (le : pos ≤ i) (first : ∀ j, pos ≤ j → j < i → Refused l d j)
      (waits : decode l (d.drop i) = .needMore) : Decided l d pos []
  | next {pos i : Nat} {f : Frame} {rest : List (Nat × Frame)} (le : pos ≤ i)
      (first : ∀ j, pos ≤ j → j < i → Refused l d j) (stands : Stands l d i f)
      (tail : Decided l d (i + f.wireSize) rest) : Decided l d pos ((i, f) :: rest)

variable {l : Limits} {b c d r : Bytes} {t t' : ScanTally} {f : Frame} {pos : Nat}
  {placed done : List (Nat × Frame)}

/-! ### The bytes so far and the whole stream -/

lemma Stands.append {i : Nat} (h : Stands l d i f) (c : Bytes) : Stands l (d ++ c) i f := by
  refine ⟨h.1, h.2.trans ?_⟩
  rw [List.drop_append]
  exact List.prefix_append _ _

lemma Stands.lt_length {i : Nat} (h : Stands l d i f) : i < d.length := by
  have hlen := h.2.length_le
  rw [length_wire, List.length_drop] at hlen
  have := f.wireSize_pos
  omega

/-- Where a frame is refused, none begins in any stream that goes on from there. -/
lemma Refused.not_stands {i : Nat} (h : Refused l d i) (hi : i ≤ d.length) (c : Bytes) :
    ¬ Stands l (d ++ c) i f := by
  obtain ⟨cause, hd⟩ := h
  rintro ⟨hf, hp⟩
  rw [List.drop_append_of_le_length hi] at hp
  exact not_wire_front_of_rejected (decode_append_of_rejected hd c) hf hp

/-- The reading of the bytes so far is a front of the leftmost reading, however the stream goes on. -/
lemma Decided.prefix_leftmost (h : Decided l d pos done) (hp : Leftmost l (d ++ c) pos placed) :
    done <+: placed := by
  induction h generalizing placed with
  | stop => exact List.nil_prefix
  | @next pos i f rest le first stands tail ih =>
    have hstands := stands.append c
    cases hp with
    | done none => exact absurd hstands (none _ _ le)
    | @next _ j g rest' le' stands' first' tail' =>
      have hij : i = j := by
        rcases Nat.lt_trichotomy i j with h | h | h
        · exact absurd hstands (first' _ _ le h)
        · exact h
        · have hj : j ≤ d.length := by
            have := stands.lt_length
            omega
          exact absurd stands' ((first j le' h).not_stands hj c)
      subst hij
      obtain rfl := hstands.unique stands'
      exact List.cons_prefix_cons.mpr ⟨rfl, ih tail'⟩

/-! ### The scanner -/

lemma refused_of_not_marker {x : UInt8} (hx : x ≠ marker) (b : Bytes) : Refused l (x :: b) 0 :=
  ⟨.invalidMarker, by simp [decode, hx]⟩

/-- The places of a buffer are its first one and those of the rest. -/
lemma refused_cons {x : UInt8} {i : Nat} (h : Refused l (x :: b) 0) (hrest : ∀ j < i, Refused l b j) :
    ∀ j < i + 1, Refused l (x :: b) j := fun j hj =>
  match j with
  | 0 => h
  | j + 1 => hrest j (by omega)

/-- The frame that a scan finds is the first one in the buffer, and no byte before it may begin one. -/
lemma scan_front_some (h : scan l false b t = (some f, r, t')) :
    l.Admits f ∧ ∃ i, b.drop i = f.wire ++ r ∧ ∀ j < i, Refused l b j := by
  induction b generalizing t with
  | nil => simp at h
  | cons x b ih =>
    by_cases hx : x = marker
    · subst hx
      cases hd : decode l (marker :: b) with
      | frame g rest =>
        rw [scan_of_frame hd] at h
        simp only [Prod.mk.injEq, Option.some.injEq] at h
        obtain ⟨rfl, rfl, -⟩ := h
        obtain ⟨hb, hf⟩ := wire_of_decode hd
        exact ⟨hf, 0, hb, fun j hj => absurd hj (Nat.not_lt_zero j)⟩
      | rejected cause =>
        rw [scan_of_rejected hd] at h
        obtain ⟨hf, i, hi, hbefore⟩ := ih h
        exact ⟨hf, i + 1, hi, refused_cons ⟨cause, hd⟩ hbefore⟩
      | needMore => simp [scan_of_needMore hd] at h
    · rw [scan_junk hx] at h
      obtain ⟨hf, i, hi, hbefore⟩ := ih h
      exact ⟨hf, i + 1, hi, refused_cons (refused_of_not_marker hx b) hbefore⟩

/-- A scan that finds nothing stops at the first place that is not refused, and has to wait there. -/
lemma scan_front_none (h : scan l false b t = (none, r, t')) :
    decode l r = .needMore ∧ ∃ i, b.drop i = r ∧ ∀ j < i, Refused l b j := by
  induction b generalizing t with
  | nil =>
    simp only [scan_nil, Prod.mk.injEq, true_and] at h
    obtain ⟨rfl, -⟩ := h
    exact ⟨rfl, 0, rfl, fun j hj => absurd hj (Nat.not_lt_zero j)⟩
  | cons x b ih =>
    by_cases hx : x = marker
    · subst hx
      cases hd : decode l (marker :: b) with
      | frame g rest => simp [scan_of_frame hd] at h
      | rejected cause =>
        rw [scan_of_rejected hd] at h
        obtain ⟨hr, i, hi, hbefore⟩ := ih h
        exact ⟨hr, i + 1, hi, refused_cons ⟨cause, hd⟩ hbefore⟩
      | needMore =>
        simp only [scan_of_needMore hd, Bool.false_eq_true, if_false, Prod.mk.injEq, true_and] at h
        obtain ⟨rfl, -⟩ := h
        exact ⟨hd, 0, rfl, fun j hj => absurd hj (Nat.not_lt_zero j)⟩
    · rw [scan_junk hx] at h
      obtain ⟨hr, i, hi, hbefore⟩ := ih h
      exact ⟨hr, i + 1, hi, refused_cons (refused_of_not_marker hx b) hbefore⟩

/-- Places of the rest of the bytes are places of the bytes. -/
lemma refused_of_drop {i : Nat} (h : ∀ j < i, Refused l (d.drop pos) j) (j : Nat) (hj : pos ≤ j)
    (hji : j < pos + i) : Refused l d j := by
  obtain ⟨k, rfl⟩ := Nat.exists_eq_add_of_le hj
  obtain ⟨cause, hd⟩ := h k (by omega)
  exact ⟨cause, by rwa [List.drop_drop] at hd⟩

/-- Asked until it has to wait, a scanner gives the reading of the bytes so far. -/
lemma decided_of_exhausts {u v : Scanner} {fs : List Frame} (h : Exhausts next u fs v)
    (hb : u.buffer = d.drop pos) :
    ∃ done, Decided u.limits d pos done ∧ done.map Prod.snd = fs := by
  -- each answer moves the position behind its frame, and the buffer with it
  induction h generalizing pos with
  | @stop u v h =>
    have hs := (advance_eq_iff.mp h).2
    rw [hb] at hs
    obtain ⟨hwait, i, hi, hbefore⟩ := scan_front_none hs
    rw [List.drop_drop] at hi
    exact ⟨[], .stop (Nat.le_add_right pos i) (refused_of_drop hbefore) (hi ▸ hwait), rfl⟩
  | @more u u' v f fs h rest ih =>
    obtain ⟨hl, hs⟩ := advance_eq_iff.mp h
    rw [hb] at hs
    obtain ⟨hf, i, hi, hbefore⟩ := scan_front_some hs
    rw [List.drop_drop] at hi
    have hrest : u'.buffer = d.drop (pos + i + f.wireSize) := by
      rw [← List.drop_drop, hi, ← length_wire, List.drop_left]
    obtain ⟨done, hdone, hfs⟩ := ih hrest
    refine ⟨(pos + i, f) :: done, .next (Nat.le_add_right pos i) (refused_of_drop hbefore) ⟨hf, ?_⟩
      (hl ▸ hdone), ?_⟩
    · rw [hi]
      exact List.prefix_append _ _
    · rw [List.map_cons, hfs]

/-- A scanner that was given some bytes drains to the reading of these bytes. -/
lemma decided_drain (l : Limits) (d : Bytes) :
    ∃ done, Decided l d 0 done ∧ done.map Prod.snd = ((fresh l).push d).drain.1 :=
  decided_of_exhausts (u := (fresh l).push d) (drain_exhausts _) (by simp [fresh, push])

end FrameLink.Scanner
