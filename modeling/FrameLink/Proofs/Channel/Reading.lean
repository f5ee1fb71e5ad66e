import FrameLink.Proofs.Channel.Session
import FrameLink.Proofs.Frame.Leftmost

/-!
What the reading of one link delivers.

The frames of a link are those that a scanner finds in the bytes read from it, and in these alone: all
that stand in the stream if its end was read, else those that are complete.
-/

namespace FrameLink.Reading

open Scanner

variable {l : Limits} {x : Reading} {s s' : Scanner} {fs : List Frame} {f : Frame} {r : Reader}

/-- The frames in the bytes of a link: those that can be told before the end of the stream, and at its
end those that are left. -/
def yield (l : Limits) (x : Reading) : List Frame :=
  let early := ((fresh l).push x.bytes).drain
  early.1 ++ if x.atEnd then early.2.drainEnd.1 else []

/-- The frames delivered so far, and a scanner that will find the others. -/
structure Traces (l : Limits) (x : Reading) (s : Scanner) : Prop where
  uses : x.atEnd = false →
    ∃ us, pushed us = x.bytes ∧ (fresh l).undergo us = (x.frames, s)
  rest : ∀ gs u, Exhausts finish s gs u →
    Exhausts finish ((fresh l).push x.bytes) (x.frames ++ gs) u

/-- The reading of the link is over, and what it delivered is what it ought to deliver. -/
def Settled (l : Limits) (x : Reading) : Prop :=
  match x.ending with
  | some .drained => x.atEnd = true ∧ x.frames = x.yield l
  | some (.failed e) => x.atEnd = false ∧ e.kind ≠ .interrupted ∧ x.frames = x.yield l
  | some (.abandoned f) => x.frames <+: x.yield l ∧ x.frames.getLast? = some f
  | none => False

lemma yield_of_open (h : x.atEnd = false) : x.yield l = ((fresh l).push x.bytes).drain.1 := by
  simp [yield, h]

lemma yield_of_atEnd (h : x.atEnd = true) : x.yield l = ((fresh l).push x.bytes).drainEnd.1 := by
  have hd := (drain_exhausts ((fresh l).push x.bytes)).finish_of_next (drainEnd_exhausts _)
  rw [drainEnd_eq_iff.mpr hd]
  simp [yield, h]

/-- The frames of a link whose end was read are those of the leftmost reading of its bytes. -/
lemma leftmost_yield (h : x.atEnd = true) :
    ∃ placed, Leftmost l x.bytes 0 placed ∧ placed.map Prod.snd = x.yield l := by
  rw [yield_of_atEnd h]
  exact leftmost_of_exhausts (u := (fresh l).push x.bytes) (drainEnd_exhausts _)
    (by simp [fresh, push])

/-! ### One use of the scanner after the other -/

lemma traces_fresh (l : Limits) (n : Nat) : Traces l { link := n } (fresh l) where
  uses _ := ⟨[], rfl, rfl⟩
  rest gs u h := by simpa using h

lemma Traces.undergo {us : List Use} (h : x.Traces l s) (hend : x.atEnd = true → pushed us = [])
    (hu : s.undergo us = (fs, s')) :
    Traces l { x with bytes := x.bytes ++ pushed us, frames := x.frames ++ fs } s' where
  uses he := by
    obtain ⟨vs, hb, hv⟩ := h.uses he
    exact ⟨vs ++ us, by rw [pushed_append, hb], by rw [undergo_append, hv, hu]⟩
  rest gs u hg := by
    have hs : s' = (s.undergo us).2 := by rw [hu]
    -- behind the end the scanner may have been asked for what is left, but nothing is pushed any more
    cases he : x.atEnd with
    | true =>
      have hgs := exhausts_of_undergo (e := true) us (hs ▸ hg)
      rw [hend he, push_nil, hu] at hgs
      have := h.rest _ _ hgs
      simpa [hend he] using this
    | false =>
      obtain ⟨vs, hb, hv⟩ := h.uses he
      have hvu : (fresh l).undergo (vs ++ us) = (x.frames ++ fs, s') := by
        rw [undergo_append, hv, hu]
      have hgs := exhausts_of_undergo (e := true) (vs ++ us) (s := fresh l) (by rw [hvu]; exact hg)
      rw [pushed_append, hb, hvu] at hgs
      exact hgs

lemma Traces.finish (h : x.Traces l s) (hf : s.finish = (some f, s')) :
    Traces l { x with atEnd := true, frames := x.frames ++ [f] } s' where
  uses he := by simp at he
  rest gs u hg := by simpa using h.rest _ _ (.more hf hg)

/-- What was delivered so far is the beginning of what there is to deliver. -/
lemma Traces.frames_le (h : x.Traces l s) : x.frames <+: x.yield l := by
  cases he : x.atEnd with
  | true =>
    have hd := h.rest _ _ (drainEnd_exhausts s)
    rw [yield_of_atEnd he, drainEnd_eq_iff.mpr hd]
    exact List.prefix_append _ _
  | false =>
    obtain ⟨us, hb, hu⟩ := h.uses he
    have hd := drain_undergo (fresh l) us
    rw [hu, hb] at hd
    rw [yield_of_open he, ← hd]
    exact List.prefix_append _ _

/-- A scanner that has to wait has found all there is so far. -/
lemma Traces.frames_of_waits (h : x.Traces l s) (he : x.atEnd = false) (hn : s.next.1 = none) :
    x.frames = x.yield l := by
  obtain ⟨us, hb, hu⟩ := h.uses he
  have hd := drain_undergo (fresh l) us
  have hstop : s.drain = ([], s.next.2) := drain_eq_iff.mpr (.stop (Prod.ext hn rfl))
  rw [hu, hb, hstop] at hd
  rw [yield_of_open he, ← hd]
  simp

/-- A scanner that is empty at the end has found all there is. -/
lemma Traces.frames_of_emptied (h : x.Traces l s) (hf : s.finish = (none, s')) :
    x.frames = ({ x with atEnd := true } : Reading).yield l := by
  have hd := h.rest _ _ (.stop hf)
  rw [yield_of_atEnd rfl, drainEnd_eq_iff.mpr hd]
  simp

/-! ### One request after the other -/

/-- The end of a link is read when its source is at its end, and then nothing follows. -/
lemma intake_of_atEnd (hend : x.atEnd = true → r.source = Source.ended) (he : x.atEnd = true) :
    r.intake = [] :=
  (Reader.readFrame_of_ended (hend he)).2.1

lemma Traces.blocked (h : x.Traces l r.scanner) (hend : x.atEnd = true → r.source = Source.ended)
    (ho : r.readFrame.1 = .blocked) :
    (x.extend r).Traces l r.readFrame.2.scanner ∧ (x.extend r).atEnd = false ∧
      (x.extend r).frames = (x.extend r).yield l := by
  have he : x.atEnd = false := by
    refine Bool.eq_false_iff.mpr fun he => ?_
    exact (Reader.readFrame_of_ended (hend he)).2.2.1 ho
  have hs := Reader.readFrame_served r
  rw [ho] at hs
  generalize hb : r.intake = b at hs
  generalize hl : r.hitsEnd = last at hs
  cases hs with
  | waiting bytes uses waits =>
    have ht := h.undergo (fun he' => by simp [he] at he') uses
    have hx : x.extend r = { x with bytes := x.bytes ++ b, frames := x.frames ++ [] } := by
      simp [extend, hb, hl]
    rw [bytes, ← hx] at ht
    have he' : (x.extend r).atEnd = false := by rw [hx, he]
    exact ⟨ht, he', ht.frames_of_waits he' waits⟩

lemma Traces.heard (h : x.Traces l r.scanner) (hend : x.atEnd = true → r.source = Source.ended)
    (ho : r.readFrame.1 = .frame f) :
    ((x.extend r).deliver f).Traces l r.readFrame.2.scanner := by
  have hs := Reader.readFrame_served r
  rw [ho] at hs
  have hin := intake_of_atEnd hend
  generalize hb : r.intake = b at hs hin
  generalize hl : r.hitsEnd = last at hs
  cases hs with
  | found bytes uses =>
    have ht := h.undergo (fun he => bytes.trans (hin he)) uses
    simpa [extend, deliver, hb, hl, bytes] using ht
  | salvaged bytes uses ends =>
    have ht := (h.undergo (fun he => bytes.trans (hin he)) uses).finish ends
    simpa [extend, deliver, hb, hl, bytes] using ht

/-- A request that fails has found all there is, and tells whether the end was read. -/
lemma Traces.broken {e : FrameError} (h : x.Traces l r.scanner)
    (hend : x.atEnd = true → r.source = Source.ended) (ho : r.readFrame.1 = .failed e) :
    ((x.extend r).close (.ofError e)).Settled l := by
  have hs := Reader.readFrame_served r
  have hin := intake_of_atEnd hend
  have hio := fun he => (Reader.readFrame_of_ended (hend he)).2.2.2
  rw [ho] at hs hio
  generalize hb : r.intake = b at hs hin
  generalize hl : r.hitsEnd = last at hs
  cases hs with
  | @broken u s' e bytes uses waits real =>
    have he : x.atEnd = false := Bool.eq_false_iff.mpr fun he => hio he e rfl
    have ht := h.undergo (fun he' => by simp [he] at he') uses
    have hx : x.extend r = { x with bytes := x.bytes ++ b, frames := x.frames ++ [] } := by
      simp [extend, hb, hl]
    rw [bytes, ← hx] at ht
    have he' : (x.extend r).atEnd = false := by rw [hx, he]
    exact ⟨he', real, ht.frames_of_waits he' waits⟩
  | emptied bytes uses ends =>
    have ht := (h.undergo (fun he => bytes.trans (hin he)) uses).frames_of_emptied ends
    refine ⟨by simp [extend, close, hl], ?_⟩
    simpa [extend, close, yield, hb, hl, bytes] using ht

/-- A relay that panics over a frame stops the delivery behind that frame. -/
lemma Traces.abandoned (h : x.Traces l s) (hf : x.frames.getLast? = some f) :
    (x.close (.abandoned f)).Settled l :=
  ⟨h.frames_le, hf⟩

end FrameLink.Reading
