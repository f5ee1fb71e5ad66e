import FrameLink.Proofs.Frame.Chunks
import FrameLink.Stream.Reader

/-!
What a request for the next frame reads, and what it does to the scanner.

A request is some uses of the scanner, with the bytes it reads pushed between them. It ends with a
frame, or with a scanner that has to wait, or at the end of the stream, where the scanner is asked
for what is left.
-/

namespace FrameLink

/-! ### The source -/

namespace Source

/-- The bytes that are queued. -/
def data (s : Source) : Bytes :=
  s.held ++ s.script.flatMap fun item => match item with
    | .data b => b
    | _ => []

/-- Only bytes and failures are queued, so that an empty read means the end of the stream. -/
def IsFed (s : Source) : Prop := ∀ item ∈ s.script, item ≠ .eof ∧ item ≠ .data []

/-- Nothing is queued, and nothing more will come. -/
def ended : Source := {}

variable {s s' : Source} {n : Nat} {b : Bytes} {e : IoError}

lemma data_of_read_bytes (h : s.read n = (.bytes b, s')) : b ++ s'.data = s.data := by
  obtain ⟨script, held, isLive⟩ := s
  match held, script with
  | x :: xs, _ =>
    simp only [read, serve, Prod.mk.injEq, ReadResult.bytes.injEq] at h
    obtain ⟨rfl, rfl⟩ := h
    simp only [data]
    rw [← List.append_assoc, List.take_append_drop]
  | [], .data c :: rest =>
    simp only [read, serve, Prod.mk.injEq, ReadResult.bytes.injEq] at h
    obtain ⟨rfl, rfl⟩ := h
    simp only [data, List.flatMap_cons, List.nil_append]
    rw [← List.append_assoc, List.take_append_drop]
  | [], .eof :: rest =>
    simp only [read, Prod.mk.injEq, ReadResult.bytes.injEq] at h
    obtain ⟨rfl, rfl⟩ := h
    simp [data]
  | [], .failure e :: rest => simp [read] at h
  | [], [] =>
    simp only [read] at h
    split at h
    · simp at h
    · simp only [Prod.mk.injEq, ReadResult.bytes.injEq] at h
      obtain ⟨rfl, rfl⟩ := h
      rfl

lemma read_failed (h : s.read n = (.failed e, s')) :
    ∃ rest, s = { s' with script := .failure e :: rest } ∧ s'.held = [] ∧ s'.script = rest := by
  obtain ⟨script, held, isLive⟩ := s
  match held, script with
  | x :: xs, _ => simp [read, serve] at h
  | [], .data c :: rest => simp [read, serve] at h
  | [], .eof :: rest => simp [read] at h
  | [], .failure e :: rest =>
    simp only [read, Prod.mk.injEq, ReadResult.failed.injEq] at h
    obtain ⟨rfl, rfl⟩ := h
    exact ⟨rest, rfl, rfl, rfl⟩
  | [], [] =>
    simp only [read] at h
    split at h <;> simp at h

lemma data_of_read_failed (h : s.read n = (.failed e, s')) : s'.data = s.data := by
  obtain ⟨rest, rfl, hheld, rfl⟩ := read_failed h
  simp [data, hheld]

/-- A read that waits finds nothing queued on a stream that may go on. -/
lemma read_blocked (h : s.read n = (.blocked, s')) :
    s' = s ∧ s.held = [] ∧ s.script = [] ∧ s.isLive = true := by
  obtain ⟨script, held, isLive⟩ := s
  match held, script with
  | x :: xs, _ => simp [read, serve] at h
  | [], .data c :: rest => simp [read, serve] at h
  | [], .eof :: rest => simp [read] at h
  | [], .failure e :: rest => simp [read] at h
  | [], [] =>
    simp only [read] at h
    split at h
    · next hl =>
      simp only [Prod.mk.injEq, true_and] at h
      exact ⟨h.symm, rfl, rfl, hl⟩
    · simp at h

lemma isLive_read (s : Source) (n : Nat) : (s.read n).2.isLive = s.isLive := by
  unfold read
  split
  · rfl
  · split <;> rfl

lemma isFed_read (h : s.IsFed) (n : Nat) : (s.read n).2.IsFed := by
  obtain ⟨script, held, isLive⟩ := s
  match held, script with
  | x :: xs, _ => exact h
  | [], .data _ :: rest | [], .eof :: rest | [], .failure _ :: rest =>
    exact fun item hi => h item (List.mem_cons_of_mem _ hi)
  | [], [] => exact h

/-- The first bytes of a piece are none only if the piece is empty. -/
lemma serve_ne_nil {x : UInt8} {xs : Bytes} (hn : 0 < n) : serve n (x :: xs) s ≠ (.bytes [], s') := by
  intro h
  simp only [serve, Prod.mk.injEq, ReadResult.bytes.injEq, List.take_eq_nil_iff, reduceCtorEq,
    or_false] at h
  omega

/-- On a stream that is fed only bytes and failures, a read of no bytes means the end. -/
lemma read_nil (h : s.IsFed) (hn : 0 < n) (hr : s.read n = (.bytes [], s')) :
    s = ended ∧ s' = ended := by
  obtain ⟨script, held, isLive⟩ := s
  match held, script with
  | x :: xs, _ => exact absurd hr (serve_ne_nil hn)
  | [], .data [] :: rest => exact absurd rfl (h _ (List.mem_cons_self ..)).2
  | [], .data (x :: xs) :: rest => exact absurd hr (serve_ne_nil hn)
  | [], .eof :: rest => exact absurd rfl (h _ (List.mem_cons_self ..)).1
  | [], .failure e :: rest => simp [read] at hr
  | [], [] =>
    simp only [read] at hr
    split at hr
    · simp at hr
    · next hl =>
      simp only [Bool.not_eq_true] at hl
      subst hl
      simp only [Prod.mk.injEq, true_and] at hr
      exact ⟨rfl, hr.symm⟩

lemma read_ended (n : Nat) : ended.read n = (.bytes [], ended) := rfl

lemma isFed_ended : ended.IsFed := fun _ h => absurd h List.not_mem_nil

end Source

/-! ### The reads of a request -/

namespace Reader

/-- What the reads of one request for a frame give, in order; a read that waits gives nothing. -/
def reads (r : Reader) : List ReadResult :=
  match r.scanner.next with
  | (some _, _) => []
  | (none, scanner) =>
    match _h : r.source.read readSize with
    | (.blocked, _) => []
    | (.failed e, source) =>
      .failed e :: if e.kind = .interrupted then reads ⟨scanner, source⟩ else []
    | (.bytes [], _) => [.bytes []]
    | (.bytes (b :: bs), source) => .bytes (b :: bs) :: reads ⟨scanner.push (b :: bs), source⟩
termination_by r.source.weight
decreasing_by
  · exact Source.weight_read_failed _h
  · exact Source.weight_read_bytes _h (List.cons_ne_nil _ _)

/-- The bytes that one request for a frame reads. -/
def intake (r : Reader) : Bytes := r.reads.flatMap fun result => match result with
  | .bytes b => b
  | _ => []

/-- One request for a frame comes to the end of the stream. -/
def hitsEnd (r : Reader) : Bool := r.reads.contains (.bytes [])

variable {r : Reader} {s : Scanner} {source : Source} {f : Frame} {b : Bytes} {e : IoError}
  {cause : FrameError}

/-! ### One step of a request -/

lemma readFrame_found (h : r.scanner.next = (some f, s)) :
    r.readFrame = (.frame f, { r with scanner := s }) ∧ r.reads = [] := by
  unfold readFrame reads
  simp [h]

lemma readFrame_blocked (h : r.scanner.next = (none, s))
    (hr : r.source.read readSize = (.blocked, source)) :
    r.readFrame = (.blocked, ⟨s, source⟩) ∧ r.reads = [] := by
  unfold readFrame reads
  simp only [h]
  constructor <;> split <;> simp_all

lemma readFrame_failed (h : r.scanner.next = (none, s))
    (hr : r.source.read readSize = (.failed e, source)) (he : e.kind ≠ .interrupted) :
    r.readFrame = (.failed (.io e), ⟨s, source⟩) ∧ r.reads = [.failed e] := by
  unfold readFrame reads
  simp only [h]
  constructor <;> split <;> simp_all

lemma readFrame_interrupted (h : r.scanner.next = (none, s))
    (hr : r.source.read readSize = (.failed e, source)) (he : e.kind = .interrupted) :
    r.readFrame = readFrame ⟨s, source⟩ ∧ r.reads = .failed e :: reads ⟨s, source⟩ := by
  constructor
  · rw [readFrame]
    simp only [h]
    split <;> simp_all
  · rw [reads]
    simp only [h]
    split <;> simp_all

lemma readFrame_atEnd (h : r.scanner.next = (none, s))
    (hr : r.source.read readSize = (.bytes [], source)) :
    r.readFrame = atEnd s source ∧ r.reads = [.bytes []] := by
  unfold readFrame reads
  simp only [h]
  constructor <;> split <;> simp_all

lemma readFrame_bytes (h : r.scanner.next = (none, s))
    (hr : r.source.read readSize = (.bytes b, source)) (hb : b ≠ []) :
    r.readFrame = readFrame ⟨s.push b, source⟩ ∧
      r.reads = .bytes b :: reads ⟨s.push b, source⟩ := by
  constructor
  · rw [readFrame]
    simp only [h]
    split <;> simp_all
  · rw [reads]
    simp only [h]
    split <;> simp_all

@[simp] lemma source_atEnd (s : Scanner) (source : Source) : (atEnd s source).2.source = source := by
  unfold atEnd
  split <;> rfl

/-! ### A whole request, by induction on what is still queued -/

/-- How a request comes out that reads these bytes, and the end of the stream or not. -/
inductive Served (s : Scanner) (b : Bytes) : Bool → ReadOutcome → Scanner → Prop where
  | waiting {u s'} (bytes : Scanner.pushed u = b) (uses : s.undergo u = ([], s'))
      (waits : s'.next.1 = none) : Served s b false .blocked s'
  | found {u s' f} (bytes : Scanner.pushed u = b) (uses : s.undergo u = ([f], s')) :
      Served s b false (.frame f) s'
  | broken {u s' e} (bytes : Scanner.pushed u = b) (uses : s.undergo u = ([], s'))
      (waits : s'.next.1 = none) (real : e.kind ≠ .interrupted) :
      Served s b false (.failed (.io e)) s'
  | salvaged {u s₁ s' f} (bytes : Scanner.pushed u = b) (uses : s.undergo u = ([], s₁))
      (ends : s₁.finish = (some f, s')) : Served s b true (.frame f) s'
  | emptied {u s₁ s'} (bytes : Scanner.pushed u = b) (uses : s.undergo u = ([], s₁))
      (ends : s₁.finish = (none, s')) : Served s b true (.failed .connectionClosed) s'

/-- A request that finds nothing in the buffer goes on with what it reads. -/
lemma Served.read {s' t : Scanner} {c : Bytes} {last : Bool} {o : ReadOutcome}
    (h : s.next = (none, s')) (hs : Served (s'.push b) c last o t) : Served s (b ++ c) last o t := by
  have hp (us : List Scanner.Use) (hc : Scanner.pushed us = c) :
      Scanner.pushed (.next :: .push b :: us) = b ++ c := by
    simp [Scanner.pushed, hc]
  have hu (us : List Scanner.Use) :
      s.undergo (.next :: .push b :: us) = (s'.push b).undergo us := by
    rw [Scanner.undergo_next_of_none h]
    rfl
  cases hs with
  | waiting bytes uses waits => exact .waiting (hp _ bytes) ((hu _).trans uses) waits
  | found bytes uses => exact .found (hp _ bytes) ((hu _).trans uses)
  | broken bytes uses waits real => exact .broken (hp _ bytes) ((hu _).trans uses) waits real
  | salvaged bytes uses ends => exact .salvaged (hp _ bytes) ((hu _).trans uses) ends
  | emptied bytes uses ends => exact .emptied (hp _ bytes) ((hu _).trans uses) ends

/-- **A request is some uses of the scanner, and at the end of the stream one question more.** -/
lemma readFrame_served (r : Reader) :
    Served r.scanner r.intake r.hitsEnd r.readFrame.1 r.readFrame.2.scanner := by
  induction r using readFrame.induct with
  | case1 r f s h =>
    obtain ⟨hf, hr⟩ := readFrame_found h
    simp only [hf, intake, hitsEnd, hr]
    exact .found (u := [.next]) rfl (by simp [Scanner.undergo, h])
  | case2 r s h source hr =>
    obtain ⟨hf, hr⟩ := readFrame_blocked h hr
    simp only [hf, intake, hitsEnd, hr]
    refine .waiting (u := [.next]) rfl (by simp [Scanner.undergo, h]) ?_
    rw [Scanner.next_of_next_none h]
  | case3 r s h e source hr he ih =>
    obtain ⟨hf, hr⟩ := readFrame_interrupted h hr he
    have hs := Served.read (b := []) h (by rw [Scanner.push_nil]; exact ih)
    simpa [hf, intake, hitsEnd, hr] using hs
  | case4 r s h e source hr he =>
    obtain ⟨hf, hr⟩ := readFrame_failed h hr he
    simp only [hf, intake, hitsEnd, hr]
    refine .broken (u := [.next]) rfl (by simp [Scanner.undergo, h]) ?_ he
    rw [Scanner.next_of_next_none h]
  | case5 r s h source hr =>
    obtain ⟨hf, hr⟩ := readFrame_atEnd h hr
    have hu : r.scanner.undergo [.next] = ([], s) := by simp [Scanner.undergo, h]
    simp only [hf, intake, hitsEnd, hr]
    unfold atEnd
    split
    · next f s' hfin => exact .salvaged (u := [.next]) rfl hu hfin
    · next s' hfin => exact .emptied (u := [.next]) rfl hu hfin
  | case6 r s h b bs source hr ih =>
    obtain ⟨hf, hr⟩ := readFrame_bytes h hr (List.cons_ne_nil b bs)
    simpa [hf, intake, hitsEnd, hr] using Served.read h ih

/-- What a request reads it takes from what is queued, and nothing else. -/
lemma data_readFrame (r : Reader) : r.intake ++ r.readFrame.2.source.data = r.source.data := by
  induction r using readFrame.induct with
  | case1 r f s h =>
    obtain ⟨hf, hr⟩ := readFrame_found h
    simp [hf, intake, hr]
  | case2 r s h source hr =>
    obtain ⟨hf, hr'⟩ := readFrame_blocked h hr
    simp [hf, intake, hr', (Source.read_blocked hr).1]
  | case3 r s h e source hr he ih =>
    obtain ⟨hf, hr'⟩ := readFrame_interrupted h hr he
    simpa [hf, intake, hr', Source.data_of_read_failed hr] using ih
  | case4 r s h e source hr he =>
    obtain ⟨hf, hr'⟩ := readFrame_failed h hr he
    simp [hf, intake, hr', Source.data_of_read_failed hr]
  | case5 r s h source hr =>
    obtain ⟨hf, hr'⟩ := readFrame_atEnd h hr
    simpa [hf, intake, hr'] using Source.data_of_read_bytes hr
  | case6 r s h b bs source hr ih =>
    obtain ⟨hf, hr'⟩ := readFrame_bytes h hr (List.cons_ne_nil b bs)
    rw [← Source.data_of_read_bytes hr]
    simpa [hf, intake, hr'] using ih

/-- What a request leaves of a source that is fed only bytes and failures. -/
structure Leaves (r : Reader) : Prop where
  isFed : r.readFrame.2.source.IsFed
  isLive : r.readFrame.2.source.isLive = r.source.isLive
  ended : r.hitsEnd = true → r.readFrame.2.source = Source.ended
  waiting : r.readFrame.1 = .blocked → r.source.isLive = true

lemma Leaves.of_rest {r' : Reader} (h : r'.Leaves) (hf : r.readFrame = r'.readFrame)
    (hend : r.hitsEnd = r'.hitsEnd) (hlive : r'.source.isLive = r.source.isLive) : r.Leaves where
  isFed := hf ▸ h.isFed
  isLive := by rw [hf, h.isLive, hlive]
  ended hh := by rw [hf]; exact h.ended (hend ▸ hh)
  waiting hb := by rw [← hlive]; exact h.waiting (hf ▸ hb)

lemma readFrame_leaves (r : Reader) (h : r.source.IsFed) : r.Leaves := by
  induction r using readFrame.induct with
  | case1 r f s hn =>
    obtain ⟨hf, hr⟩ := readFrame_found hn
    exact ⟨by rw [hf]; exact h, by rw [hf], by simp [hitsEnd, hr], by simp [hf]⟩
  | case2 r s hn source hr =>
    obtain ⟨hf, hr'⟩ := readFrame_blocked hn hr
    obtain ⟨rfl, -, -, hlive⟩ := Source.read_blocked hr
    exact ⟨by rw [hf]; exact h, by rw [hf], by simp [hitsEnd, hr'], fun _ => hlive⟩
  | case3 r s hn e source hr he ih =>
    obtain ⟨hf, hr'⟩ := readFrame_interrupted hn hr he
    have hfed := Source.isFed_read h readSize
    have hlive := Source.isLive_read r.source readSize
    rw [hr] at hfed hlive
    exact (ih hfed).of_rest hf (by simp [hitsEnd, hr']) hlive
  | case4 r s hn e source hr he =>
    obtain ⟨hf, hr'⟩ := readFrame_failed hn hr he
    have hfed := Source.isFed_read h readSize
    have hlive := Source.isLive_read r.source readSize
    rw [hr] at hfed hlive
    exact ⟨by rw [hf]; exact hfed, by rw [hf]; exact hlive, by simp [hitsEnd, hr'], by simp [hf]⟩
  | case5 r s hn source hr =>
    obtain ⟨hf, hr'⟩ := readFrame_atEnd hn hr
    obtain ⟨hs, rfl⟩ := Source.read_nil h (by decide) hr
    have hsrc : r.readFrame.2.source = Source.ended := by rw [hf, source_atEnd]
    refine ⟨hsrc ▸ Source.isFed_ended, by rw [hsrc, hs], fun _ => hsrc, fun hb => ?_⟩
    rw [hf] at hb
    unfold atEnd at hb
    split at hb <;> simp at hb
  | case6 r s hn b bs source hr ih =>
    obtain ⟨hf, hr'⟩ := readFrame_bytes hn hr (List.cons_ne_nil b bs)
    have hfed := Source.isFed_read h readSize
    have hlive := Source.isLive_read r.source readSize
    rw [hr] at hfed hlive
    exact (ih hfed).of_rest hf (by simp [hitsEnd, hr']) hlive

/-- From a source that is at its end a request takes what the scanner has left. -/
lemma readFrame_eq_atEnd (h : r.source = Source.ended) :
    r.readFrame = atEnd r.scanner Source.ended := by
  have hr : r.source.read readSize = (.bytes [], Source.ended) := by rw [h, Source.read_ended]
  cases hn : r.scanner.next with
  | mk f? s =>
    cases f? with
    | some f =>
      rw [(readFrame_found hn).1, atEnd, Scanner.finish_of_next_some hn, ← h]
    | none =>
      rw [(readFrame_atEnd hn hr).1, atEnd, atEnd, Scanner.finish_of_next_none hn]

lemma finish_of_readFrame_frame (h : r.source = Source.ended) (ho : r.readFrame.1 = .frame f) :
    r.scanner.finish = (some f, r.readFrame.2.scanner) := by
  rw [readFrame_eq_atEnd h] at ho ⊢
  unfold atEnd at ho ⊢
  split at ho
  · next hf => simpa [hf] using ho
  · simp at ho

lemma finish_of_readFrame_failed (h : r.source = Source.ended) (ho : r.readFrame.1 = .failed cause) :
    r.scanner.finish = (none, r.readFrame.2.scanner) := by
  rw [readFrame_eq_atEnd h] at ho ⊢
  unfold atEnd at ho ⊢
  split at ho
  · simp at ho
  · next hf => simp [hf]

/-- From a source that is at its end nothing is read any more, and reading it does not fail. -/
lemma readFrame_of_ended (h : r.source = Source.ended) :
    r.readFrame.2.source = Source.ended ∧ r.intake = [] ∧ r.readFrame.1 ≠ .blocked ∧
      ∀ e, r.readFrame.1 ≠ .failed (.io e) := by
  have hr : r.source.read readSize = (.bytes [], Source.ended) := by rw [h, Source.read_ended]
  cases hn : r.scanner.next with
  | mk f? s =>
    cases f? with
    | some f =>
      obtain ⟨hf, hr'⟩ := readFrame_found hn
      exact ⟨by rw [hf]; exact h, by simp [intake, hr'], by simp [hf], by simp [hf]⟩
    | none =>
      obtain ⟨hf, hr'⟩ := readFrame_atEnd hn hr
      have ho : (atEnd s Source.ended).1 ≠ .blocked ∧ ∀ e, (atEnd s Source.ended).1 ≠ .failed (.io e) := by
        unfold atEnd
        split <;> simp
      rw [hf]
      exact ⟨source_atEnd s _, by simp [intake, hr'], ho.1, ho.2⟩

end Reader

end FrameLink
