import FrameLink.Proofs.Frame.Decided
import FrameLink.Proofs.Stream.Pipe

/-!
All answers of a reader whose stream fails now and then.

Whatever comes between the bytes, a reader tells what its scanner would have told of them: the frames
that are complete so far, then the failure, then what the next bytes complete, and at the end what can
still be salvaged. How the bytes were cut does not show, so what a reader holds of a piece may as well
have been pushed already.
-/

namespace FrameLink

namespace Inbound

/-- The bytes that an item gives. -/
def bytes : Inbound → Bytes
  | .data b => b
  | _ => []

/-- The failure that has to be reported; an interruption has not. -/
def failure? : Inbound → Option IoError
  | .failure e => if e.kind = .interrupted then none else some e
  | _ => none

@[simp] lemma bytes_failure (e : IoError) : (failure e).bytes = [] := rfl

lemma not_interrupted {item : Inbound} {e : IoError} (h : item.failure? = some e) :
    e.kind ≠ .interrupted := by
  unfold failure? at h
  split at h
  · split at h
    · simp at h
    · next he =>
      obtain rfl := Option.some.inj h
      exact he
  · simp at h

end Inbound

namespace ReadOutcome

def frame? : ReadOutcome → Option Frame
  | .frame f => some f
  | _ => none

def failure? : ReadOutcome → Option IoError
  | .failed (.io e) => some e
  | _ => none

/-- A frame, or a failure that had to be reported. -/
def IsProper (o : ReadOutcome) : Prop :=
  (∃ f, o = .frame f) ∨ ∃ e, o = .failed (.io e) ∧ e.kind ≠ .interrupted

variable {fs : List Frame} {es : List IoError}

lemma frames_of_frames : (fs.map frame).filterMap frame? = fs := by
  rw [List.filterMap_map]
  exact List.filterMap_some

lemma failures_of_frames : (fs.map frame).filterMap failure? = [] := by
  simp [failure?]

lemma frames_of_failures : (es.map (.failed <| .io ·)).filterMap frame? = [] := by
  simp [frame?]

lemma failures_of_failures : (es.map (.failed <| .io ·)).filterMap failure? = es := by
  rw [List.filterMap_map]
  exact List.filterMap_some

end ReadOutcome

namespace Source

variable {s s' : Source} {n : Nat} {b : Bytes} {e : IoError}

/-- Bytes come from the piece that is held, or from the next one. -/
lemma read_bytes (h : s.read n = (.bytes b, s')) (hb : b ≠ []) :
    s.held = b ++ s'.held ∧ s.script = s'.script ∨
      s.held = [] ∧ s.script = .data (b ++ s'.held) :: s'.script := by
  obtain ⟨script, held, isLive⟩ := s
  match held, script with
  | x :: xs, _ =>
    simp only [read, serve, Prod.mk.injEq, ReadResult.bytes.injEq] at h
    obtain ⟨rfl, rfl⟩ := h
    exact Or.inl ⟨(List.take_append_drop n (x :: xs)).symm, rfl⟩
  | [], .data c :: rest =>
    simp only [read, serve, Prod.mk.injEq, ReadResult.bytes.injEq] at h
    obtain ⟨rfl, rfl⟩ := h
    exact Or.inr ⟨rfl, by simp⟩
  | [], .eof :: rest =>
    simp only [read, Prod.mk.injEq, ReadResult.bytes.injEq] at h
    exact absurd h.1.symm hb
  | [], .failure e :: rest => simp [read] at h
  | [], [] =>
    simp only [read] at h
    split at h
    · simp at h
    · simp only [Prod.mk.injEq, ReadResult.bytes.injEq] at h
      exact absurd h.1.symm hb

end Source

namespace Reader

open Scanner

/-! ### What a scanner tells of a script -/

/-- What is told while a script is read: before each item the frames that are complete so far. -/
def told : Scanner → List Inbound → List ReadOutcome × Scanner
  | s, [] => (s.drain.1.map .frame, s.drain.2)
  | s, item :: rest =>
    (s.drain.1.map .frame ++ item.failure?.toList.map (.failed <| .io ·) ++
      (told (s.drain.2.push item.bytes) rest).1, (told (s.drain.2.push item.bytes) rest).2)

/-- All that is told of a script and its end. -/
def toldToEnd (s : Scanner) (script : List Inbound) : List ReadOutcome :=
  (told s script).1 ++ (told s script).2.drainEnd.1.map .frame

variable {s s' : Scanner} {script pre post : List Inbound} {item : Inbound} {f : Frame}

/-- Frames that are complete may be told before the bytes that follow are pushed. -/
lemma told_push (s : Scanner) (b : Bytes) (script : List Inbound) :
    told (s.push b) script =
      (s.drain.1.map .frame ++ (told (s.drain.2.push b) script).1, (told (s.drain.2.push b) script).2) := by
  cases script <;> simp [told, drain_push s b]

lemma told_append (s : Scanner) (pre : List Inbound) (item : Inbound) (post : List Inbound) :
    told s (pre ++ item :: post) =
      ((told s pre).1 ++ item.failure?.toList.map (.failed <| .io ·) ++
        (told ((told s pre).2.push item.bytes) post).1,
      (told ((told s pre).2.push item.bytes) post).2) := by
  induction pre generalizing s with
  | nil => rfl
  | cons first pre ih => simp [told, ih]

/-- The frames that are told are those that the bytes of the script complete. -/
lemma frames_told (s : Scanner) (script : List Inbound) :
    ((told s script).1.filterMap ReadOutcome.frame?, (told s script).2) =
      (s.push (script.flatMap Inbound.bytes)).drain := by
  induction script generalizing s with
  | nil => rw [told, ReadOutcome.frames_of_frames, List.flatMap_nil, push_nil]
  | cons item rest ih =>
    have hrest := Prod.ext_iff.mp (ih (s.drain.2.push item.bytes))
    rw [List.flatMap_cons, drain_push, ← push_push]
    simp only [told, List.filterMap_append, ReadOutcome.frames_of_frames,
      ReadOutcome.frames_of_failures, List.append_nil] at hrest ⊢
    rw [hrest.1, hrest.2]

lemma failures_told (s : Scanner) (script : List Inbound) :
    (told s script).1.filterMap ReadOutcome.failure? = script.filterMap Inbound.failure? := by
  induction script generalizing s with
  | nil => rw [told, ReadOutcome.failures_of_frames, List.filterMap_nil]
  | cons item rest ih =>
    simp only [told, List.filterMap_append, ReadOutcome.failures_of_frames,
      ReadOutcome.failures_of_failures, List.nil_append, ih, List.filterMap_cons]
    cases item.failure? <;> rfl

lemma toldToEnd_push (s : Scanner) (b : Bytes) (script : List Inbound) :
    toldToEnd (s.push b) script = s.drain.1.map .frame ++ toldToEnd (s.drain.2.push b) script := by
  rw [toldToEnd, told_push, toldToEnd, List.append_assoc]

/-- A complete frame is told first. -/
lemma toldToEnd_found (h : s.next = (some f, s')) (b : Bytes) (script : List Inbound) :
    toldToEnd (s.push b) script = .frame f :: toldToEnd (s'.push b) script := by
  have hdrain : s.drain = (f :: s'.drain.1, s'.drain.2) := drain_eq_iff.mpr (.more h (drain_exhausts s'))
  rw [toldToEnd_push, toldToEnd_push s', hdrain, List.map_cons, List.cons_append]

lemma toldToEnd_waits (h : s.next = (none, s')) (b : Bytes) (script : List Inbound) :
    toldToEnd (s.push b) script = toldToEnd (s'.push b) script := by
  have hdrain : s.drain = ([], s') := drain_eq_iff.mpr (.stop h)
  rw [toldToEnd_push, hdrain, List.map_nil, List.nil_append]

/-- When no frame is complete, the next item is told, and then what its bytes complete. -/
lemma toldToEnd_item (h : s.next = (none, s')) (item : Inbound) (script : List Inbound) :
    toldToEnd s (item :: script) =
      item.failure?.toList.map (.failed <| .io ·) ++ toldToEnd (s'.push item.bytes) script := by
  have hdrain : s.drain = ([], s') := drain_eq_iff.mpr (.stop h)
  simp only [toldToEnd, told, hdrain, List.map_nil, List.nil_append, List.append_assoc]

/-- At the end of the script what is left is salvaged. -/
lemma toldToEnd_nil (s : Scanner) : toldToEnd s [] = s.drainEnd.1.map .frame := by
  rw [toldToEnd, told, drainEnd_eq s, List.map_append]

/-! ### What a reader answers -/

/-- The answers of a reader, however often it is asked: these, and from then on the end of the stream. -/
def Answers (r : Reader) (os : List ReadOutcome) : Prop :=
  ∀ n, (readEach (os.length + n) r).1 = os ++ List.replicate n (.failed .connectionClosed)

variable {r r' : Reader} {o : ReadOutcome} {os : List ReadOutcome}

lemma Answers.cons (hcall : r.readFrame = (o, r')) (h : r'.Answers os) : r.Answers (o :: os) := by
  intro n
  rw [List.length_cons, Nat.add_right_comm, readEach, hcall, h n, List.cons_append]

/-- A request that goes on as another one gives the same answers. -/
lemma Answers.congr (hcall : r.readFrame = r'.readFrame) (h : r'.Answers os) : r.Answers os := by
  intro n
  rw [← h n]
  cases os.length + n with
  | zero => rfl
  | succ k => rw [readEach, readEach, hcall]

/-- From a source that is at its end come the frames that are left. -/
lemma answers_ended {s v : Scanner} {fs : List Frame} (h : Exhausts finish s fs v) :
    Answers ⟨s, Source.ended⟩ (fs.map .frame) := by
  induction h with
  | @stop s v h =>
    have hcall {s' v' : Scanner} (h : s'.finish = (none, v')) :
        readFrame ⟨s', Source.ended⟩ = (.failed .connectionClosed, ⟨v', Source.ended⟩) := by
      rw [readFrame_eq_atEnd rfl, atEnd, h]
    -- a scanner that was emptied stays empty
    have hagain : v.finish = (none, v) := by
      obtain ⟨hl, hs⟩ := advance_eq_iff.mp h
      refine advance_eq_iff.mpr ⟨rfl, ?_⟩
      rw [rest_of_scan_end hs, scan_nil]
    have hstays (n : Nat) : (readEach n ⟨v, Source.ended⟩).1 =
        List.replicate n (.failed .connectionClosed) := by
      induction n with
      | zero => rfl
      | succ n ih => rw [readEach, hcall hagain, ih, List.replicate_succ]
    intro n
    cases n with
    | zero => rfl
    | succ n =>
      rw [List.map_nil, List.length_nil, Nat.zero_add, readEach, hcall h, hstays, List.nil_append,
        List.replicate_succ]
  | @more s s' v f fs h _ ih =>
    have hcall : readFrame ⟨s, Source.ended⟩ = (.frame f, ⟨s', Source.ended⟩) := by
      rw [readFrame_eq_atEnd rfl, atEnd, h]
    exact ih.cons hcall

/-- What a reader with this source tells of its script, whatever its scanner holds. -/
def Tells (source : Source) : Prop :=
  ∀ s : Scanner, Answers ⟨s, source⟩ (toldToEnd (s.push source.held) source.script)

/-- A read that fails is reported, unless it was interrupted, and the bytes before it are kept. -/
lemma answers_failed {source source' : Source} {e : IoError} (h : s.next = (none, s'))
    (hr : source.read readSize = (.failed e, source')) (rest : Tells source') :
    Answers ⟨s, source⟩ (toldToEnd (s'.push source.held) source.script) := by
  obtain ⟨script, hsource, hheld, rfl⟩ := Source.read_failed hr
  have hnow : source.held = [] := by rw [hsource, hheld]
  have hscript : source.script = .failure e :: source'.script := by rw [hsource]
  have hrest := rest s'
  rw [hheld, push_nil] at hrest
  rw [hnow, push_nil, hscript, toldToEnd_item (next_of_next_none h), Inbound.bytes_failure,
    push_nil, Inbound.failure?]
  by_cases he : e.kind = .interrupted
  · rw [if_pos he]
    exact .congr (readFrame_interrupted h hr he).1 hrest
  · rw [if_neg he]
    exact .cons (readFrame_failed h hr he).1 hrest

/-- Bytes that come in are pushed, and the rest of their piece is held. -/
lemma answers_bytes {source source' : Source} {b : Bytes} (h : s.next = (none, s'))
    (hr : source.read readSize = (.bytes b, source')) (hb : b ≠ []) (rest : Tells source') :
    Answers ⟨s, source⟩ (toldToEnd (s'.push source.held) source.script) := by
  refine .congr (readFrame_bytes h hr hb).1 ?_
  have hrest := rest (s'.push b)
  rw [push_push] at hrest
  rcases Source.read_bytes hr hb with ⟨hheld, hscript⟩ | ⟨hheld, hscript⟩
  · rwa [hheld, hscript]
  · rwa [hheld, push_nil, hscript, toldToEnd_item (next_of_next_none h)]

/-- **A reader tells what its scanner tells of the script**, however the pieces of the script are cut
into reads. -/
lemma answers_told {source : Source} (fed : source.IsFed) (ends : source.isLive = false) :
    Tells source := by
  induction hw : source.weight using Nat.strongRecOn generalizing source with
  | ind w ih =>
    intro s
    have hfed := Source.isFed_read fed readSize
    have hlive := (Source.isLive_read source readSize).trans ends
    obtain ⟨fs, v, hdrain⟩ : ∃ fs v, Exhausts next s fs v := ⟨_, _, drain_exhausts s⟩
    -- complete frames come without a read; then there is one, after which less is queued
    induction hdrain with
    | @more s s' v f fs h _ ihs =>
      rw [toldToEnd_found h]
      exact ihs.cons (readFrame_found h).1
    | @stop s s' h =>
      rw [toldToEnd_waits h]
      match hr : source.read readSize with
      | (.blocked, source') =>
        have hlive' := (Source.read_blocked hr).2.2.2
        simp [ends] at hlive'
      | (.failed e, source') =>
        rw [hr] at hfed hlive
        exact answers_failed h hr (ih _ (hw ▸ Source.weight_read_failed hr) hfed hlive rfl)
      | (.bytes [], source') =>
        obtain ⟨rfl, -⟩ := Source.read_nil fed (by decide) hr
        change Answers _ (toldToEnd (s'.push []) [])
        rw [← toldToEnd_waits h, push_nil, toldToEnd_nil]
        exact answers_ended (drainEnd_exhausts s)
      | (.bytes (b :: bs), source') =>
        rw [hr] at hfed hlive
        have hless := Source.weight_read_bytes hr (List.cons_ne_nil b bs)
        exact answers_bytes h hr (List.cons_ne_nil b bs) (ih _ (hw ▸ hless) hfed hlive rfl)

/-! ### What is told, frame by frame and failure by failure -/

/-- Only frames and failures are told, and no interruption is. -/
lemma proper_told (s : Scanner) (script : List Inbound) : ∀ o ∈ (told s script).1, o.IsProper := by
  induction script generalizing s with
  | nil =>
    intro o ho
    obtain ⟨f, -, rfl⟩ := List.mem_map.mp ho
    exact Or.inl ⟨f, rfl⟩
  | cons item rest ih =>
    intro o ho
    rcases List.mem_append.mp ho with ho | ho
    · rcases List.mem_append.mp ho with ho | ho
      · obtain ⟨f, -, rfl⟩ := List.mem_map.mp ho
        exact Or.inl ⟨f, rfl⟩
      · obtain ⟨e, he, rfl⟩ := List.mem_map.mp ho
        exact Or.inr ⟨e, rfl, Inbound.not_interrupted (Option.mem_toList.mp he)⟩
    · exact ih _ o ho

lemma proper_toldToEnd (s : Scanner) (script : List Inbound) : ∀ o ∈ toldToEnd s script, o.IsProper := by
  intro o ho
  rcases List.mem_append.mp ho with ho | ho
  · exact proper_told s script o ho
  · obtain ⟨f, -, rfl⟩ := List.mem_map.mp ho
    exact Or.inl ⟨f, rfl⟩

/-- To the end all frames are told that the whole stream has for a scanner. -/
lemma frames_toldToEnd (s : Scanner) (script : List Inbound) :
    (toldToEnd s script).filterMap ReadOutcome.frame? =
      (s.push (script.flatMap Inbound.bytes)).drainEnd.1 := by
  have htold := Prod.ext_iff.mp (frames_told s script)
  simp only at htold
  rw [toldToEnd, List.filterMap_append, ReadOutcome.frames_of_frames, htold.1, htold.2,
    drainEnd_eq (s.push _)]

lemma failures_toldToEnd (s : Scanner) (script : List Inbound) :
    (toldToEnd s script).filterMap ReadOutcome.failure? = script.filterMap Inbound.failure? := by
  rw [toldToEnd, List.filterMap_append, ReadOutcome.failures_of_frames, failures_told, List.append_nil]

/-- A failure is told behind all that the script before it has to tell. -/
lemma toldToEnd_failure {e : IoError} (he : e.kind ≠ .interrupted) (s : Scanner) (pre post : List Inbound) :
    ∃ back, toldToEnd s (pre ++ .failure e :: post) = (told s pre).1 ++ .failed (.io e) :: back := by
  refine ⟨toldToEnd (told s pre).2 post, ?_⟩
  have hfailure : (Inbound.failure e).failure? = some e := if_neg he
  simp only [toldToEnd, told_append, hfailure, Inbound.bytes_failure, push_nil, Option.toList_some,
    List.map_cons, List.map_nil, List.append_assoc, List.cons_append, List.nil_append]

/-- **Failures lose nothing.** A stream gives pieces of bytes, interruptions and other failures in any
order, and then it ends. Apart from the failures, the answers of its reader are the frames of the
leftmost reading of all the bytes, and then the end of the stream, however often it is asked. Each
failure but an interruption is answered once and in its place, behind the frames that are complete with
the bytes before it, and what it comes in the midst of is read on behind it. -/
theorem failures_lose_nothing (l : Limits) (script : List Inbound)
    (fed : ∀ item ∈ script, item ≠ .eof ∧ item ≠ .data []) :
    ∃ answers placed,
      Answers ⟨Scanner.fresh l, { script }⟩ answers ∧
      (∀ o ∈ answers, o.IsProper) ∧
      Leftmost l (script.flatMap Inbound.bytes) 0 placed ∧
      answers.filterMap ReadOutcome.frame? = placed.map Prod.snd ∧
      answers.filterMap ReadOutcome.failure? = script.filterMap Inbound.failure? ∧
      ∀ pre e post, script = pre ++ .failure e :: post → e.kind ≠ .interrupted →
        ∃ front back done, answers = front ++ .failed (.io e) :: back ∧
          front.filterMap ReadOutcome.failure? = pre.filterMap Inbound.failure? ∧
          front.filterMap ReadOutcome.frame? = done.map Prod.snd ∧
          Decided l (pre.flatMap Inbound.bytes) 0 done ∧ done <+: placed := by
  have htells : Tells { script } := answers_told fed rfl
  have hanswers := htells (Scanner.fresh l)
  rw [push_nil] at hanswers
  obtain ⟨placed, hplaced, hframes⟩ : ∃ placed, Leftmost l (script.flatMap Inbound.bytes) 0 placed ∧
      placed.map Prod.snd = ((fresh l).push (script.flatMap Inbound.bytes)).drainEnd.1 :=
    leftmost_of_exhausts (u := (fresh l).push _) (drainEnd_exhausts _) (by simp [fresh, push])
  refine ⟨toldToEnd (fresh l) script, placed, hanswers, proper_toldToEnd _ _, hplaced,
    (frames_toldToEnd _ _).trans hframes.symm, failures_toldToEnd _ _, ?_⟩
  rintro pre e post rfl he
  obtain ⟨back, hback⟩ := toldToEnd_failure he (fresh l) pre post
  obtain ⟨done, hdone, hfront⟩ := decided_drain l (pre.flatMap Inbound.bytes)
  have htold := congrArg Prod.fst (frames_told (fresh l) pre)
  refine ⟨(told (fresh l) pre).1, back, done, hback, failures_told _ _, htold.trans hfront.symm, hdone, ?_⟩
  rw [List.flatMap_append] at hplaced
  exact hdone.prefix_leftmost hplaced

/-- A frame that a failure comes in the midst of, and one behind a header that is never completed. -/
theorem failures_lose_nothing_in_frame :
    let first : Frame := Frame.empty Kind.shutDown
    let second : Frame := Frame.empty Kind.enableSensors
    let interrupted : IoError := ⟨.interrupted, "interrupted"⟩
    let timedOut : IoError := ⟨.timedOut, "timed out"⟩
    let reset : IoError := ⟨.connectionReset, "reset"⟩
    let script : List Inbound :=
      [.data (0x00 :: first.wire.take 3), .failure interrupted, .failure timedOut,
        .data (first.wire.drop 3 ++ [0xFF, 0xFF, 0x12, 0x09]), .failure reset, .data second.wire]
    (∀ item ∈ script, item ≠ .eof ∧ item ≠ .data []) ∧
    ∃ answers, Answers ⟨Scanner.fresh {}, { script }⟩ answers ∧
      answers.filterMap ReadOutcome.frame? = [first, second] ∧
      answers.filterMap ReadOutcome.failure? = [timedOut, reset] := by
  intro first second interrupted timedOut reset script
  have fed : ∀ item ∈ script, item ≠ .eof ∧ item ≠ .data [] := by
    intro item hi
    simp only [script, List.mem_cons, List.not_mem_nil, or_false] at hi
    rcases hi with rfl | rfl | rfl | rfl | rfl | rfl <;> exact ⟨by simp, by decide⟩
  obtain ⟨answers, placed, hanswers, -, hplaced, hframes, hfailures, -⟩ :=
    failures_lose_nothing {} script fed
  obtain ⟨other, hother, hdrained⟩ : ∃ other, Leftmost {} (script.flatMap Inbound.bytes) 0 other ∧
      other.map Prod.snd = ((fresh {}).push (script.flatMap Inbound.bytes)).drainEnd.1 :=
    leftmost_of_exhausts (u := (fresh {}).push _) (drainEnd_exhausts _) rfl
  have hfound : ((fresh {}).push (script.flatMap Inbound.bytes)).drainEnd.1 = [first, second] := by decide
  refine ⟨fed, answers, hanswers, ?_, hfailures⟩
  rw [hframes, hother.unique hplaced, hdrained, hfound]

end Reader

end FrameLink
