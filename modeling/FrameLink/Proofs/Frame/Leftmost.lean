import FrameLink.Proofs.Frame.Scan

/-!
What a scanner finds in a whole stream.

The reference looks at the stream alone: from a position on it takes the first place at which an
admitted frame begins, goes on behind that frame, and stops when there is no such place. Junk of any
kind, also junk that looks like the beginning of a frame, is what lies between the places.
-/

namespace FrameLink.Scanner

open FrameLink.Frame

/-- An admitted frame begins at a position of a stream. -/
def Stands (l : Limits) (s : Bytes) (i : Nat) (f : Frame) : Prop :=
  l.Admits f ∧ f.wire <+: s.drop i

/-- The leftmost greedy reading of a stream from a position on: frames with their places. -/
inductive Leftmost (l : Limits) (s : Bytes) : Nat → List (Nat × Frame) → Prop where
  | done {pos : Nat} (none : ∀ i f, pos ≤ i → ¬ Stands l s i f) : Leftmost l s pos []
  | next {pos i : Nat} {f : Frame} {rest : List (Nat × Frame)} (le : pos ≤ i)
      (stands : Stands l s i f) (first : ∀ j g, pos ≤ j → j < i → ¬ Stands l s j g)
      (tail : Leftmost l s (i + f.wireSize) rest) : Leftmost l s pos ((i, f) :: rest)

variable {l : Limits} {s : Bytes} {pos : Nat} {placed other : List (Nat × Frame)}

lemma Stands.unique {i : Nat} {f g : Frame} (hf : Stands l s i f) (hg : Stands l s i g) : f = g :=
  eq_of_wire_fronts hf.1 hg.1 hf.2 hg.2

/-! ### The reference -/

/-- There is only one leftmost reading. -/
lemma Leftmost.unique (h : Leftmost l s pos placed) (h' : Leftmost l s pos other) :
    other = placed := by
  induction h generalizing other with
  | done none =>
    cases h' with
    | done => rfl
    | next le stands _ _ => exact absurd stands (none _ _ le)
  | @next pos i f rest le stands first tail ih =>
    cases h' with
    | done none => exact absurd stands (none _ _ le)
    | @next _ j g rest' le' stands' first' tail' =>
      have hij : i = j := by
        rcases Nat.lt_trichotomy i j with h | h | h
        · exact absurd stands (first' _ _ le h)
        · exact h
        · exact absurd stands' (first _ _ le' h)
      subst hij
      obtain rfl := stands.unique stands'
      rw [ih tail']

/-- A frame in the stream is read, unless it begins inside one that is. -/
lemma Leftmost.mem_or_overlaps (h : Leftmost l s pos placed) {i : Nat} {f : Frame} (hi : pos ≤ i)
    (hf : Stands l s i f) :
    (i, f) ∈ placed ∨ ∃ p ∈ placed, p.1 < i ∧ i < p.1 + p.2.wireSize := by
  induction h with
  | done none => exact absurd hf (none _ _ hi)
  | @next pos k g rest le stands first tail ih =>
    rcases Nat.lt_trichotomy i k with h | rfl | h
    · exact absurd hf (first _ _ hi h)
    · obtain rfl := hf.unique stands
      exact Or.inl (List.mem_cons_self ..)
    · rcases Nat.lt_or_ge i (k + g.wireSize) with hin | hout
      · exact Or.inr ⟨(k, g), List.mem_cons_self .., h, hin⟩
      · rcases ih hout with hm | ⟨p, hp, hlt⟩
        · exact Or.inl (List.mem_cons_of_mem _ hm)
        · exact Or.inr ⟨p, List.mem_cons_of_mem _ hp, hlt⟩

/-! ### The scanner -/

/-- The frame found at the end of a stream is the first one in the buffer, with its bytes taken out
and everything before them thrown away. -/
lemma scan_end_some {b r : Bytes} {t t' : ScanTally} {f : Frame}
    (h : scan l true b t = (some f, r, t')) :
    l.Admits f ∧ ∃ i, b.drop i = f.wire ++ r ∧
      ∀ j < i, ∀ g, l.Admits g → ¬ g.wire <+: b.drop j := by
  induction b generalizing t with
  | nil => simp at h
  | cons x b ih =>
    rcases scan_end_cons l x b t with ⟨g, r', hb, hg, hs⟩ | ⟨u, hs, hnone⟩
    · rw [hs] at h
      simp only [Prod.mk.injEq, Option.some.injEq] at h
      obtain ⟨rfl, rfl, -⟩ := h
      exact ⟨hg, 0, hb, fun j hj => absurd hj (Nat.not_lt_zero j)⟩
    · obtain ⟨hf, i, hi, hbefore⟩ := ih (hs ▸ h)
      refine ⟨hf, i + 1, hi, fun j hj g hg => ?_⟩
      cases j with
      | zero => exact hnone g hg
      | succ j => exact hbefore j (by omega) g hg

lemma scan_end_none {b r : Bytes} {t t' : ScanTally} (h : scan l true b t = (none, r, t')) (j : Nat)
    {g : Frame} (hg : l.Admits g) : ¬ g.wire <+: b.drop j := by
  induction b generalizing t j with
  | nil => simp [wire]
  | cons x b ih =>
    rcases scan_end_cons l x b t with ⟨f, r', -, -, hs⟩ | ⟨u, hs, hnone⟩
    · simp [hs] at h
    · cases j with
      | zero => exact hnone g hg
      | succ j => exact ih (hs ▸ h) j

/-- From any position on, a scanner that holds the rest of a stream finds the leftmost reading. -/
lemma leftmost_of_exhausts {u v : Scanner} {fs : List Frame} (h : Exhausts finish u fs v)
    (hb : u.buffer = s.drop pos) :
    ∃ placed, Leftmost u.limits s pos placed ∧ placed.map Prod.snd = fs := by
  -- each answer moves the position behind its frame, and the buffer with it
  induction h generalizing pos with
  | stop h =>
    have hs := (advance_eq_iff.mp h).2
    rw [hb] at hs
    refine ⟨[], .done fun i f hi hf => ?_, rfl⟩
    obtain ⟨j, rfl⟩ := Nat.exists_eq_add_of_le hi
    have := scan_end_none hs j hf.1
    rw [List.drop_drop] at this
    exact this hf.2
  | @more u u' v f fs h rest ih =>
    obtain ⟨hl, hs⟩ := advance_eq_iff.mp h
    rw [hb] at hs
    obtain ⟨hf, i, hi, hbefore⟩ := scan_end_some hs
    rw [List.drop_drop] at hi
    have hrest : u'.buffer = s.drop (pos + i + f.wireSize) := by
      rw [← List.drop_drop, hi, ← length_wire, List.drop_left]
    obtain ⟨placed, hp, hfs⟩ := ih hrest
    refine ⟨(pos + i, f) :: placed, .next (Nat.le_add_right _ _) ⟨hf, ?_⟩ ?_ (hl ▸ hp), ?_⟩
    · rw [hi]
      exact List.prefix_append _ _
    · intro j g hj hji hg
      obtain ⟨k, rfl⟩ := Nat.exists_eq_add_of_le hj
      have := hbefore k (by omega) g hg.1
      rw [List.drop_drop] at this
      exact this hg.2
    · rw [List.map_cons, hfs]

/-- **A scanner is the leftmost greedy parser.** Emptied at the end of a stream, it yields the
frames of the one leftmost reading, so that a frame in the stream is missed only if it begins inside
a frame that is found. -/
theorem finish_yields_leftmost (l : Limits) (s : Bytes) :
    ∃ placed, Leftmost l s 0 placed ∧ (∀ other, Leftmost l s 0 other → other = placed) ∧
      Exhausts finish ((fresh l).push s) (placed.map Prod.snd) ((fresh l).push s).drainEnd.2 ∧
      ((fresh l).push s).drainEnd.1 = placed.map Prod.snd ∧
      ∀ i f, Stands l s i f →
        (i, f) ∈ placed ∨ ∃ p ∈ placed, p.1 < i ∧ i < p.1 + p.2.wireSize := by
  have hend := drainEnd_exhausts ((fresh l).push s)
  have hb : ((fresh l).push s).buffer = s.drop 0 := by simp [fresh, push]
  obtain ⟨placed, hp, hfs⟩ := leftmost_of_exhausts hend hb
  refine ⟨placed, hp, fun _ ho => hp.unique ho, ?_, hfs.symm, fun i f hf => ?_⟩
  · rw [hfs]
    exact hend
  · exact hp.mem_or_overlaps (Nat.zero_le i) hf

end FrameLink.Scanner
