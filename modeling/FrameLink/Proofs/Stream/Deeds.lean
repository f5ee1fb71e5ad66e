import FrameLink.Proofs.Stream.Writer

/-!
The calls that writing a frame makes on its sink.

A recorder keeps account of them and changes nothing. Read from the first to the last, they offer what
is left of the bytes, and go on until all is taken or a call fails; only then comes the flush. How the
writing ends is how the last call ended, since no call before it has failed.
-/

namespace FrameLink

/-- A call on a sink, with how it came out. -/
inductive Deed where
  | write (offered : Bytes) (answer : Except IoError Nat)
  | flush (answer : Except IoError Unit)

namespace Deed

/-- The bytes that the sink took. -/
def taken : Deed → Bytes
  | .write offered (.ok n) => offered.take n
  | _ => []

/-- The failure that the writing ends with; an interruption is none. -/
def failure? : Deed → Option FrameError
  | .write _ (.ok 0) => some .connectionClosed
  | .write _ (.ok _) => none
  | .write _ (.error e) => if e.kind = .interrupted then none else some (.io e)
  | .flush (.ok _) => none
  | .flush (.error e) => if e.kind = .interrupted then none else some (.io e)

/-- How writing comes out, by the first call that failed. -/
def outcome (ds : List Deed) : Except FrameError Unit :=
  (ds.findSome? failure?).elim (.ok ()) .error

variable {d : Deed} {ds : List Deed} {e : FrameError}

lemma failure?_write {x : IoError} (b : Bytes) :
    (write b (.error x)).failure? = if x.kind = .interrupted then none else some (.io x) := rfl

lemma failure?_flush {x : IoError} :
    (flush (.error x)).failure? = if x.kind = .interrupted then none else some (.io x) := rfl

lemma offered_of_head {b c : Bytes} {a a' : Except IoError Nat} {ds' : List Deed}
    (h : write b a :: ds = write c a' :: ds') : c = b :=
  (write.inj (List.cons.inj h).1).1.symm

lemma outcome_cons_of_none (h : d.failure? = none) : outcome (d :: ds) = outcome ds := by
  simp [outcome, h]

lemma outcome_cons_of_some (h : d.failure? = some e) : outcome (d :: ds) = .error e := by
  simp [outcome, h]

lemma outcome_eq_error_iff : outcome ds = .error e ↔ ds.findSome? failure? = some e := by
  unfold outcome
  cases ds.findSome? failure? <;> simp

lemma outcome_append (h : outcome ds = .ok ()) (more : List Deed) : outcome (ds ++ more) = outcome more := by
  induction ds with
  | nil => rfl
  | cons d ds ih =>
    cases hd : d.failure? with
    | none =>
      rw [outcome_cons_of_none hd] at h
      rw [List.cons_append, outcome_cons_of_none hd, ih h]
    | some e => simp [outcome_cons_of_some hd] at h

end Deed

/-- A sink and the calls that were made on it. -/
structure Recorder (σ : Type) where
  sink : σ
  deeds : List Deed := []

instance {σ : Type} [ByteSink σ] : ByteSink (Recorder σ) where
  write r b :=
    ((ByteSink.write r.sink b).1,
      ⟨(ByteSink.write r.sink b).2, r.deeds ++ [.write b (ByteSink.write r.sink b).1]⟩)
  flush r :=
    ((ByteSink.flush r.sink).1, ⟨(ByteSink.flush r.sink).2, r.deeds ++ [.flush (ByteSink.flush r.sink).1]⟩)
  patience r := ByteSink.patience r.sink
  patience_write_le r b := ByteSink.patience_write_le r.sink b
  patience_write_lt r b := ByteSink.patience_write_lt r.sink b
  patience_flush_lt r := ByteSink.patience_flush_lt r.sink

namespace Writer

variable {σ : Type} [ByteSink σ] {l : Limits} {f : Frame} {s : σ}

/-! ### Calls in order -/

/-- The calls that write bytes, and how they come out. -/
inductive Wrote : Bytes → List Deed → Except FrameError Unit → Prop where
  | done : Wrote [] [] (.ok ())
  | put {b : Bytes} {n : Nat} {ds : List Deed} {o : Except FrameError Unit} (left : b ≠ [])
      (rest : Wrote (b.drop (n + 1)) ds o) : Wrote b (.write b (.ok (n + 1)) :: ds) o
  | interrupted {b : Bytes} {e : IoError} {ds : List Deed} {o : Except FrameError Unit} (left : b ≠ [])
      (again : e.kind = .interrupted) (rest : Wrote b ds o) : Wrote b (.write b (.error e) :: ds) o
  | closed {b : Bytes} (left : b ≠ []) : Wrote b [.write b (.ok 0)] (.error .connectionClosed)
  | failed {b : Bytes} {e : IoError} (left : b ≠ []) (real : e.kind ≠ .interrupted) :
      Wrote b [.write b (.error e)] (.error (.io e))

/-- The calls that flush, and how they come out. -/
inductive Flushed : List Deed → Except FrameError Unit → Prop where
  | done : Flushed [.flush (.ok ())] (.ok ())
  | interrupted {e : IoError} {ds : List Deed} {o : Except FrameError Unit}
      (again : e.kind = .interrupted) (rest : Flushed ds o) : Flushed (.flush (.error e) :: ds) o
  | failed {e : IoError} (real : e.kind ≠ .interrupted) :
      Flushed [.flush (.error e)] (.error (.io e))

/-- The calls that get bytes across: the flush comes when all of them are taken. -/
inductive Delivered (b : Bytes) : List Deed → Except FrameError Unit → Prop where
  | flushed {ds ds' : List Deed} {o : Except FrameError Unit} (wrote : Wrote b ds (.ok ()))
      (flushed : Flushed ds' o) : Delivered b (ds ++ ds') o
  | stopped {ds : List Deed} {e : FrameError} (wrote : Wrote b ds (.error e)) :
      Delivered b ds (.error e)

section Order

variable {b c : Bytes} {ds front back : List Deed} {o : Except FrameError Unit}
  {answer : Except IoError Nat}

lemma Wrote.outcome_eq (h : Wrote b ds o) : Deed.outcome ds = o := by
  induction h with
  | done => rfl
  | put left rest ih => rw [Deed.outcome_cons_of_none rfl, ih]
  | interrupted left again rest ih =>
    rw [Deed.outcome_cons_of_none (by rw [Deed.failure?_write, if_pos again]), ih]
  | closed left => exact Deed.outcome_cons_of_some rfl
  | failed left real => exact Deed.outcome_cons_of_some (by rw [Deed.failure?_write, if_neg real])

lemma Flushed.outcome_eq (h : Flushed ds o) : Deed.outcome ds = o := by
  induction h with
  | done => rfl
  | interrupted again rest ih =>
    rw [Deed.outcome_cons_of_none (by rw [Deed.failure?_flush, if_pos again]), ih]
  | failed real => exact Deed.outcome_cons_of_some (by rw [Deed.failure?_flush, if_neg real])

/-- What was taken is a front of the bytes, and it is all of them if the writing went well. -/
lemma Wrote.taken (h : Wrote b ds o) :
    ds.flatMap Deed.taken <+: b ∧ (o = .ok () → ds.flatMap Deed.taken = b) := by
  induction h with
  | done => exact ⟨List.prefix_rfl, fun _ => rfl⟩
  | @put b n ds o left rest ih =>
    obtain ⟨⟨more, hmore⟩, hall⟩ := ih
    rw [List.flatMap_cons, Deed.taken]
    refine ⟨⟨more, ?_⟩, fun ho => ?_⟩
    · rw [List.append_assoc, hmore, List.take_append_drop]
    · rw [hall ho, List.take_append_drop]
  | interrupted left again rest ih => exact ih
  | closed left => exact ⟨List.nil_prefix, by simp⟩
  | failed left real => exact ⟨List.nil_prefix, by simp⟩

/-- Each write is offered what the writes before it have left. -/
lemma Wrote.offered (h : Wrote b ds o) (hds : ds = front ++ .write c answer :: back) :
    front.flatMap Deed.taken ++ c = b := by
  induction h generalizing front with
  | done => simp at hds
  | @put b n ds o left rest ih =>
    cases front with
    | nil => exact Deed.offered_of_head hds
    | cons d front =>
      obtain ⟨rfl, htail⟩ := List.cons.inj hds
      rw [List.flatMap_cons, List.append_assoc, ih htail, Deed.taken, List.take_append_drop]
  | @interrupted b e ds o left again rest ih =>
    cases front with
    | nil => exact Deed.offered_of_head hds
    | cons d front =>
      obtain ⟨rfl, htail⟩ := List.cons.inj hds
      have hrest : front.flatMap Deed.taken ++ c = b := ih htail
      exact hrest
  | closed left | failed left real =>
    cases front with
    | nil => exact Deed.offered_of_head hds
    | cons d front => simp at hds

lemma Wrote.not_flush (h : Wrote b ds o) (a : Except IoError Unit) : .flush a ∉ ds := by
  induction h with
  | done => simp
  | put left rest ih | interrupted left again rest ih => simpa using ih
  | closed left | failed left real => simp

lemma Wrote.first (h : Wrote b ds o) (hb : b ≠ []) : ∃ a rest, ds = .write b a :: rest := by
  cases h with
  | done => exact absurd rfl hb
  | put | interrupted | closed | failed => exact ⟨_, _, rfl⟩

/-- Flushing writes nothing, and goes well exactly when a flush does. -/
lemma Flushed.quiet (h : Flushed ds o) :
    (∀ c a, .write c a ∉ ds) ∧ ds.flatMap Deed.taken = [] ∧ (o = .ok () ↔ .flush (.ok ()) ∈ ds) := by
  induction h with
  | done => simp [Deed.taken]
  | interrupted again rest ih => simpa [Deed.taken] using ih
  | failed real => simp [Deed.taken]

lemma Delivered.outcome_eq (h : Delivered b ds o) : Deed.outcome ds = o := by
  cases h with
  | flushed wrote flushed => rw [Deed.outcome_append wrote.outcome_eq, flushed.outcome_eq]
  | stopped wrote => exact wrote.outcome_eq

lemma Delivered.taken_prefix (h : Delivered b ds o) : ds.flatMap Deed.taken <+: b := by
  cases h with
  | flushed wrote flushed =>
    rw [List.flatMap_append, flushed.quiet.2.1, List.append_nil]
    exact wrote.taken.1
  | stopped wrote => exact wrote.taken.1

/-- All went well exactly when all was taken and a flush went well. -/
lemma Delivered.ok_iff (h : Delivered b ds o) :
    o = .ok () ↔ ds.flatMap Deed.taken = b ∧ .flush (.ok ()) ∈ ds := by
  cases h with
  | @flushed ds ds' o wrote flushed =>
    rw [List.flatMap_append, flushed.quiet.2.1, List.append_nil, List.mem_append, flushed.quiet.2.2]
    constructor
    · exact fun ho => ⟨wrote.taken.2 rfl, Or.inr ho⟩
    · rintro ⟨-, hf | hf⟩
      · exact absurd hf (wrote.not_flush _)
      · exact hf
  | stopped wrote =>
    refine ⟨by simp, ?_⟩
    rintro ⟨-, hf⟩
    exact absurd hf (wrote.not_flush _)

lemma Delivered.offered (h : Delivered b ds o) (hds : ds = front ++ .write c answer :: back) :
    front.flatMap Deed.taken ++ c = b := by
  cases h with
  | @flushed ds ds' o wrote flushed =>
    rcases List.append_eq_append_iff.mp hds with ⟨more, rfl, hmore⟩ | ⟨more, hmore, hrest⟩
    · exact absurd (hmore ▸ List.mem_append_right more (List.mem_cons_self ..)) (flushed.quiet.1 c answer)
    · cases more with
      | nil =>
        have hmem : .write c answer ∈ ds' := by
          rw [← List.nil_append ds', ← hrest]
          exact List.mem_cons_self ..
        exact absurd hmem (flushed.quiet.1 c answer)
      | cons d more =>
        obtain ⟨rfl, -⟩ := List.cons.inj hrest
        exact wrote.offered hmore
  | stopped wrote => exact wrote.offered hds

lemma Delivered.first (h : Delivered b ds o) (hb : b ≠ []) : ∃ a rest, ds = .write b a :: rest := by
  cases h with
  | @flushed ds ds' o wrote flushed =>
    obtain ⟨a, rest, rfl⟩ := wrote.first hb
    exact ⟨a, rest ++ ds', rfl⟩
  | stopped wrote => exact wrote.first hb

end Order

/-! ### A recorder -/

lemma writeAll_wrote (r : Recorder σ) (b : Bytes) :
    ∃ ds, (writeAll r b).2.deeds = r.deeds ++ ds ∧ Wrote b ds (writeAll r b).1 := by
  induction r, b using writeAll.induct with
  | case1 r => exact ⟨[], by simp, by simpa using .done⟩
  | case2 r b hb hz =>
    have hz' : (ByteSink.write r.sink b).1 = .ok 0 := hz
    rw [writeAll_closed hb hz]
    exact ⟨[.write b (.ok 0)], by rw [← hz']; rfl, .closed hb⟩
  | case3 r b hb n hn ih =>
    have hn' : (ByteSink.write r.sink b).1 = .ok (n + 1) := hn
    obtain ⟨ds, hds, hwrote⟩ := ih
    rw [writeAll_put hb hn]
    refine ⟨.write b (.ok (n + 1)) :: ds, ?_, .put hb hwrote⟩
    rw [hds, ← hn', List.append_cons]
    rfl
  | case4 r b hb e he hi ih =>
    have he' : (ByteSink.write r.sink b).1 = .error e := he
    obtain ⟨ds, hds, hwrote⟩ := ih
    rw [writeAll_interrupted hb he hi]
    refine ⟨.write b (.error e) :: ds, ?_, .interrupted hb hi hwrote⟩
    rw [hds, ← he', List.append_cons]
    rfl
  | case5 r b hb e he hi =>
    have he' : (ByteSink.write r.sink b).1 = .error e := he
    rw [writeAll_failed hb he hi]
    exact ⟨[.write b (.error e)], by rw [← he']; rfl, .failed hb hi⟩

lemma flush_flushed (r : Recorder σ) :
    ∃ ds, (flush r).2.deeds = r.deeds ++ ds ∧ Flushed ds (flush r).1 := by
  induction r using flush.induct with
  | case1 r hdone =>
    have hdone' : (ByteSink.flush r.sink).1 = .ok () := hdone
    rw [flush_done hdone]
    exact ⟨[.flush (.ok ())], by rw [← hdone']; rfl, .done⟩
  | case2 r e he hi ih =>
    have he' : (ByteSink.flush r.sink).1 = .error e := he
    obtain ⟨ds, hds, hflushed⟩ := ih
    rw [flush_interrupted he hi]
    refine ⟨.flush (.error e) :: ds, ?_, .interrupted hi hflushed⟩
    rw [hds, ← he', List.append_cons]
    rfl
  | case3 r e he hi =>
    have he' : (ByteSink.flush r.sink).1 = .error e := he
    rw [flush_failed he hi]
    exact ⟨[.flush (.error e)], by rw [← he']; rfl, .failed hi⟩

/-- The calls that writing a frame makes on a sink. -/
def deeds (l : Limits) (s : σ) (f : Frame) : List Deed :=
  (writeFrame l ({ sink := s } : Recorder σ) f).2.deeds

lemma deeds_refused {cause : FrameError} (h : l.refusal? f = some cause) : deeds l s f = [] := by
  rw [deeds, writeFrame_refused h]

lemma deeds_stopped {r : Recorder σ} {cause : FrameError} (h : l.refusal? f = none)
    (hw : writeAll ({ sink := s } : Recorder σ) f.wire = (.error cause, r)) : deeds l s f = r.deeds := by
  rw [deeds, writeFrame_stopped h (congrArg Prod.fst hw), hw]

lemma deeds_flushed {r : Recorder σ} (h : l.refusal? f = none)
    (hw : writeAll ({ sink := s } : Recorder σ) f.wire = (.ok (), r)) :
    deeds l s f = (flush r).2.deeds := by
  rw [deeds, writeFrame_flushed h (congrArg Prod.fst hw), hw]

/-- Writing a frame that is not refused is getting its bytes across. -/
lemma writeFrame_delivered (h : l.refusal? f = none) (r : Recorder σ) :
    ∃ ds, (writeFrame l r f).2.deeds = r.deeds ++ ds ∧ Delivered f.wire ds (writeFrame l r f).1 := by
  obtain ⟨ds, hds, hwrote⟩ := writeAll_wrote r f.wire
  cases ho : (writeAll r f.wire).1 with
  | ok u =>
    rw [ho] at hwrote
    obtain ⟨ds', hds', hflushed⟩ := flush_flushed (writeAll r f.wire).2
    rw [writeFrame_flushed h ho, hds', hds, List.append_assoc]
    exact ⟨ds ++ ds', rfl, .flushed hwrote hflushed⟩
  | error e =>
    rw [writeFrame_stopped h ho, hds, ho]
    rw [ho] at hwrote
    exact ⟨ds, rfl, .stopped hwrote⟩

/-! ### Keeping account changes nothing -/

lemma writeAll_recorder (r : Recorder σ) (b : Bytes) :
    (writeAll r b).1 = (writeAll r.sink b).1 ∧ (writeAll r b).2.sink = (writeAll r.sink b).2 := by
  induction r, b using writeAll.induct with
  | case1 r => simp
  | case2 r b hb hz =>
    have hz' : (ByteSink.write r.sink b).1 = .ok 0 := hz
    rw [writeAll_closed hb hz, writeAll_closed hb hz']
    exact ⟨rfl, rfl⟩
  | case3 r b hb n hn ih =>
    have hn' : (ByteSink.write r.sink b).1 = .ok (n + 1) := hn
    rw [writeAll_put hb hn, writeAll_put hb hn']
    exact ih
  | case4 r b hb e he hi ih =>
    have he' : (ByteSink.write r.sink b).1 = .error e := he
    rw [writeAll_interrupted hb he hi, writeAll_interrupted hb he' hi]
    exact ih
  | case5 r b hb e he hi =>
    have he' : (ByteSink.write r.sink b).1 = .error e := he
    rw [writeAll_failed hb he hi, writeAll_failed hb he' hi]
    exact ⟨rfl, rfl⟩

lemma flush_recorder (r : Recorder σ) :
    (flush r).1 = (flush r.sink).1 ∧ (flush r).2.sink = (flush r.sink).2 := by
  induction r using flush.induct with
  | case1 r hdone =>
    have hdone' : (ByteSink.flush r.sink).1 = .ok () := hdone
    rw [flush_done hdone, flush_done hdone']
    exact ⟨rfl, rfl⟩
  | case2 r e he hi ih =>
    have he' : (ByteSink.flush r.sink).1 = .error e := he
    rw [flush_interrupted he hi, flush_interrupted he' hi]
    exact ih
  | case3 r e he hi =>
    have he' : (ByteSink.flush r.sink).1 = .error e := he
    rw [flush_failed he hi, flush_failed he' hi]
    exact ⟨rfl, rfl⟩

lemma writeFrame_recorder (l : Limits) (r : Recorder σ) (f : Frame) :
    (writeFrame l r f).1 = (writeFrame l r.sink f).1 ∧
      (writeFrame l r f).2.sink = (writeFrame l r.sink f).2 := by
  obtain ⟨hwrite, hsink⟩ := writeAll_recorder r f.wire
  cases hr : l.refusal? f with
  | some cause =>
    rw [writeFrame_refused hr, writeFrame_refused hr]
    exact ⟨rfl, rfl⟩
  | none =>
    cases ho : (writeAll r f.wire).1 with
    | ok u =>
      obtain ⟨hflush, hsink'⟩ := flush_recorder (writeAll r f.wire).2
      rw [writeFrame_flushed hr ho, writeFrame_flushed hr (hwrite.symm.trans ho), ← hsink]
      exact ⟨hflush, hsink'⟩
    | error e =>
      rw [writeFrame_stopped hr ho, writeFrame_stopped hr (hwrite.symm.trans ho)]
      exact ⟨hwrite, hsink⟩

/-- **The calls that write a frame that is not refused**, with the outcome they have. -/
lemma deeds_delivered (h : l.refusal? f = none) :
    Delivered f.wire (deeds l s f) (writeFrame l s f).1 := by
  obtain ⟨ds, hds, hdelivered⟩ := writeFrame_delivered h ({ sink := s } : Recorder σ)
  rw [(writeFrame_recorder l _ f).1] at hdelivered
  rw [deeds, hds]
  exact hdelivered

end Writer

/-! ### A scripted sink -/

namespace Sink

/-- What calls leave of a scripted sink: it has what they were told it took, and the scripts go on. -/
structure After (s : Sink) (ds : List Deed) (s' : Sink) : Prop where
  accepted : s'.accepted = s.accepted ++ ds.flatMap Deed.taken
  writes : s'.writes <:+ s.writes
  flushes : s'.flushes <:+ s.flushes

variable {s s' : Sink} {ds : List Deed}

lemma After.write (h : s.After ds s') (b : Bytes) :
    s.After (ds ++ [.write b (s'.write b).1]) (s'.write b).2 := by
  obtain ⟨writes, flushes, isClosed, pieces, flushed⟩ := s'
  obtain ⟨hacc, hwrites, hflushes⟩ := h
  simp only [Sink.accepted] at hacc
  cases isClosed with
  | true => exact ⟨by simp [Sink.write, Sink.accepted, Deed.taken, hacc], hwrites, hflushes⟩
  | false =>
    cases writes with
    | nil => exact ⟨by simp [Sink.write, take, Sink.accepted, Deed.taken, hacc], hwrites, hflushes⟩
    | cons answer rest =>
      have hrest := (List.suffix_cons answer rest).trans hwrites
      cases answer with
      | ok n =>
        have htaken : b.take (min n b.length) = b.take n := by rw [← List.take_take, List.take_length]
        exact ⟨by simp [Sink.write, take, Sink.accepted, Deed.taken, hacc, htaken], hrest, hflushes⟩
      | error e => exact ⟨by simp [Sink.write, Sink.accepted, Deed.taken, hacc], hrest, hflushes⟩

lemma After.flush (h : s.After ds s') : s.After (ds ++ [.flush s'.flush.1]) s'.flush.2 := by
  obtain ⟨writes, flushes, isClosed, pieces, flushed⟩ := s'
  obtain ⟨hacc, hwrites, hflushes⟩ := h
  simp only [Sink.accepted] at hacc
  cases flushes with
  | nil => exact ⟨by simp [Sink.flush, Sink.accepted, Deed.taken, hacc], hwrites, hflushes⟩
  | cons answer rest =>
    have hrest := (List.suffix_cons answer rest).trans hflushes
    cases answer with
    | ok u | error e => exact ⟨by simp [Sink.flush, Sink.accepted, Deed.taken, hacc], hwrites, hrest⟩

/-- Writing a frame leaves of a sink what its calls leave. -/
lemma after_writeFrame (l : Limits) (s : Sink) (f : Frame) :
    s.After (Writer.deeds l s f) (Writer.writeFrame l s f).2 := by
  have hstart : s.After [] s := ⟨(List.append_nil _).symm, List.suffix_rfl, List.suffix_rfl⟩
  have hafter := Writer.writeFrame_keeps (s := ({ sink := s } : Recorder Sink))
    (P := fun r => s.After r.deeds r.sink) (fun _ b h => h.write b) (fun _ h => h.flush) hstart l f
  rwa [(Writer.writeFrame_recorder l _ f).2] at hafter

end Sink

end FrameLink
