import FrameLink.Proofs.Channel.Session

/-!
What the state, the links and those who hold them have to do with one another.

In a run the state, the link, the writer, the waiting link, the halt and the thread change one after the
other, and each section of a call or of the thread leads from a sound channel to a sound channel. While
a call is about to take the link down, less is asked for, since the channel is halted by then and the
thread may end before the link is closed.
-/

namespace FrameLink

/-- The thread reads a link. -/
def Receiver.Reads : Receiver → Nat → Prop
  | .reading n _ _, m => n = m
  | _, _ => False

/-- Where the thread can be between two sections goes with what it holds. -/
def Stage.Fits : Stage → Receiver → Prop
  | .idle, _ => True
  | .failed, r | .lost, r | .passing _, r | .handling, r | .relaying _, r => ∃ n, r.Reads n
  | .attempting k, r => r = .waiting k
  | .leaving, r => r ≠ .ended

/-- No call has halted the channel, as far as the state shows. -/
def Caller.IsPlain : Caller → Prop
  | .free | .connecting | .failing => True
  | _ => False

/-- The links of a channel: only the open one can give anything, and the thread reads them in the order
they were opened. -/
structure Wiring.Ordered (w : Wiring) : Prop where
  leaves : w.leaves = fun _ => Source.ended
  ended : ∀ n, w.current ≠ some n → w.source n = Source.ended
  fed : ∀ n, (w.source n).IsFed
  current_lt : ∀ n, w.current = some n → n < w.sources.length
  pending_lt : ∀ n, w.pending = some n → n < w.sources.length
  reads_lt : ∀ n, w.receiver.Reads n → n < w.sources.length
  reads_lt_pending : ∀ n m, w.receiver.Reads n → w.pending = some m → n < m
  receiving_iff : w.receiving = true ↔ w.receiver ≠ .ended
  pending_of_ended : w.receiver = .ended → w.pending = none

/-- Who holds the open link, and the links that are not open any more. -/
structure Wiring.Held (w : Wiring) (stage : Stage) : Prop where
  state_of_current : ∀ n, w.current = some n → w.state = .connected
  writer_of_current : ∀ n, w.current = some n → w.writer = some n
  reader_of_current : ∀ n, w.current = some n →
    w.pending = some n ∨ w.pending = none ∧ w.receiver.Reads n ∧ stage ≠ .leaving
  current_of_halted : w.halted = true → w.current = none
  pending_of_halted : w.halted = true → w.pending = none
  writer_of_halted : w.halted = true → w.writer = none
  writer_of_pending : ∀ n, w.pending = some n → w.writer = some n
  writer_of_unread : w.pending = none → (stage = .leaving ∨ ∀ n, ¬ w.receiver.Reads n) →
    w.writer = none

/-- What the state and the halt have to do with the call that is in progress. -/
structure Wiring.Shown (w : Wiring) (caller : Caller) : Prop where
  state : caller.IsPlain → w.state = .disconnected ∨ w.state = .connected ∧ w.current ≠ none
  halted : caller.IsTaking ∨ caller = .ending → w.halted = true
  clear : caller = .connecting → w.halted = false

/-- The invariant of all runs. -/
structure Wiring.Sound (w : Wiring) (stage : Stage) (caller : Caller) : Prop where
  ordered : w.Ordered
  fits : stage.Fits w.receiver
  shown : w.Shown caller
  held : ¬ caller.IsTaking → w.Held stage

namespace Wiring

variable {w w' : Wiring} {stage : Stage} {caller : Caller} {n : Nat}

/-! ### The links -/

lemma source_set (w : Wiring) (n m : Nat) (s : Source) (hn : n < w.sources.length) :
    { w with sources := w.sources.set n s }.source m = if n = m then s else w.source m := by
  simp only [source, List.getD_eq_getElem?_getD, List.getElem?_set]
  by_cases h : n = m
  · subst h
    simp [hn]
  · simp [h]

lemma Ordered.source_closed (h : w.Ordered) (n : Nat) : w.closed.source n = Source.ended := by
  unfold closed
  cases hc : w.current with
  | none => exact h.ended n (by simp [hc])
  | some m =>
    simp only [source, h.leaves, List.getD_eq_getElem?_getD, List.getElem?_modify]
    by_cases hmn : m = n
    · subst hmn
      simp [h.current_lt m hc]
    · have hn := h.ended n (by simp [hc, hmn])
      simpa [source, hmn] using hn

/-- Closing leaves nothing that could give anything. -/
lemma Ordered.closed (h : w.Ordered) : w.closed.Ordered where
  leaves := h.leaves
  ended n _ := h.source_closed n
  fed n := h.source_closed n ▸ Source.isFed_ended
  current_lt n hn := by simp [Wiring.closed] at hn
  pending_lt n hn := by simpa using h.pending_lt n hn
  reads_lt n hn := by simpa using h.reads_lt n hn
  reads_lt_pending := h.reads_lt_pending
  receiving_iff := h.receiving_iff
  pending_of_ended := h.pending_of_ended

lemma Ordered.down (h : w.Ordered) : w.down.Ordered :=
  { h.closed with
    pending_lt := by simp [Wiring.down]
    reads_lt_pending := by simp [Wiring.down]
    pending_of_ended := by simp [Wiring.down] }

lemma Ordered.source_opened (h : w.Ordered) (n : Nat) :
    w.opened.source n = if n = w.sources.length then { isLive := true } else Source.ended := by
  have hc := h.source_closed n
  simp only [source, opened, List.getD_eq_getElem?_getD] at hc ⊢
  rcases Nat.lt_trichotomy n w.sources.length with hlt | rfl | hgt
  · rw [List.getElem?_append_left (by simpa using hlt), hc, if_neg (by omega)]
  · rw [List.getElem?_append_right (by simp)]
    simp
  · rw [List.getElem?_append_right (by simpa using Nat.le_of_lt hgt), if_neg (by omega)]
    rw [List.getElem?_eq_none (by simp; omega)]
    rfl

lemma Ordered.opened (h : w.Ordered) : w.opened.Ordered where
  leaves := h.leaves
  ended n hn := by
    rw [h.source_opened, if_neg]
    rintro rfl
    exact hn rfl
  fed n := by
    rw [h.source_opened]
    split
    · intro item hi
      simp at hi
    · exact Source.isFed_ended
  current_lt n hn := by
    simp only [Wiring.opened, Option.some.injEq] at hn
    simp [Wiring.opened, ← hn]
  pending_lt n hn := by
    have := h.pending_lt n hn
    simp only [Wiring.opened, List.length_append, length_closed, List.length_singleton]
    omega
  reads_lt n hn := by
    have := h.reads_lt n hn
    simp only [Wiring.opened, List.length_append, length_closed, List.length_singleton]
    omega
  reads_lt_pending := h.reads_lt_pending
  receiving_iff := h.receiving_iff
  pending_of_ended := h.pending_of_ended

lemma Ordered.ended_of_idle (h : w.Ordered) (idle : w.receiving = false) :
    w.receiver = .ended := by
  by_cases hne : w.receiver = .ended
  · exact hne
  · simp [h.receiving_iff.mpr hne] at idle

/-- The thread takes up the waiting link. -/
lemma Ordered.handed (h : w.Ordered) (hp : w.pending = some n) : (w.handed n).Ordered :=
  have hr : w.receiver ≠ .ended := fun he => by simp [h.pending_of_ended he] at hp
  { h with
    pending_lt := by simp [Wiring.handed, listening]
    reads_lt := by
      rintro m rfl
      exact h.pending_lt _ hp
    reads_lt_pending := by simp [Wiring.handed, listening]
    receiving_iff := by simpa [Wiring.handed, listening] using h.receiving_iff.mpr hr
    pending_of_ended := by simp [Wiring.handed, listening] }

/-- The thread takes up a link that was just opened. -/
lemma Ordered.listening (h : w.Ordered) (hp : w.pending = none) (hn : n < w.sources.length) :
    ({ w with receiving := true }.listening n).Ordered :=
  { h with
    reads_lt := by
      rintro m rfl
      exact hn
    reads_lt_pending := fun m k _ hk => by simp [Wiring.listening, hp] at hk
    receiving_iff := by simp [Wiring.listening]
    pending_of_ended := fun _ => hp }

/-- The thread goes over to its delay. -/
lemma Ordered.waiting (h : w.Ordered) (hrun : w.receiving = true) (k : Nat) :
    ({ w with receiver := .waiting k } : Wiring).Ordered :=
  { h with
    reads_lt := by simp [Receiver.Reads]
    reads_lt_pending := by simp [Receiver.Reads]
    receiving_iff := ⟨by simp, fun _ => hrun⟩
    pending_of_ended := by simp }

/-- The thread ends, and nothing waits for it. -/
lemma Ordered.finished (h : w.Ordered) :
    ({ w with pending := none, receiving := false, receiver := .ended } : Wiring).Ordered :=
  { h with
    pending_lt := by simp
    reads_lt := by simp [Receiver.Reads]
    reads_lt_pending := by simp
    receiving_iff := by simp
    pending_of_ended := fun _ => rfl }

/-! ### Who holds what -/

/-- With no link open, waiting or written to, there is nothing to hold. -/
lemma Held.of_none (hc : w.current = none) (hp : w.pending = none) (hw : w.writer = none) :
    w.Held stage where
  state_of_current := by simp [hc]
  writer_of_current := by simp [hc]
  reader_of_current := by simp [hc]
  current_of_halted _ := hc
  pending_of_halted _ := hp
  writer_of_halted _ := hw
  writer_of_pending := by simp [hp]
  writer_of_unread _ _ := hw

/-- A link that is closed while the rest stays leaves a writer and a waiting link behind. -/
lemma Held.closed (h : w.Held stage) :
    ({ w.closed with state := .disconnected } : Wiring).Held stage where
  state_of_current := by simp [Wiring.closed]
  writer_of_current := by simp [Wiring.closed]
  reader_of_current := by simp [Wiring.closed]
  current_of_halted _ := rfl
  pending_of_halted := h.pending_of_halted
  writer_of_halted := h.writer_of_halted
  writer_of_pending := h.writer_of_pending
  writer_of_unread := h.writer_of_unread

/-- A link that was just opened is read next or waits to be. -/
lemma Held.fresh (hc : w.current = some n) (hs : w.state = .connected) (hw : w.writer = some n)
    (hh : w.halted = false)
    (hr : w.pending = some n ∨ w.pending = none ∧ w.receiver.Reads n ∧ stage ≠ .leaving) :
    w.Held stage where
  state_of_current _ _ := hs
  writer_of_current m hm := by rw [hw, ← hm, hc]
  reader_of_current m hm := by
    obtain rfl : n = m := by simpa [hc] using hm
    exact hr
  current_of_halted := by simp [hh]
  pending_of_halted := by simp [hh]
  writer_of_halted := by simp [hh]
  writer_of_pending m hm := by
    rcases hr with hr | ⟨hr, -⟩
    · rw [hw, ← hr, hm]
    · simp [hr] at hm
  writer_of_unread hp hu := by
    rcases hr with hr | ⟨-, hr, hst⟩
    · simp [hr] at hp
    · rcases hu with hu | hu
      · exact absurd hu hst
      · exact absurd hr (hu n)

/-! ### Calls -/

variable {caller' : Caller}

/-- Opening a link leads from a sound channel to a sound channel, however it comes out. -/
lemma Sound.established (h : w.Sound stage caller) (hcalm : ¬ caller.IsTaking)
    (hh : w.halted = false) (hw : w.Established w')
    (hfree : ¬ (caller'.IsTaking ∨ caller' = .ending)) : w'.Sound stage caller' := by
  have hheld := h.held hcalm
  have hopened := h.ordered.opened
  have hlt : w.sources.length < w.opened.sources.length := by simp [Wiring.opened]
  cases hw with
  | refused =>
    refine ⟨{ h.ordered.closed with }, h.fits, ⟨?_, fun ht => absurd ht hfree, fun _ => hh⟩,
      fun _ => hheld.closed⟩
    exact fun _ => Or.inl rfl
  | handedOver running =>
    refine ⟨{ hopened with pending_lt := ?_, reads_lt_pending := ?_, pending_of_ended := ?_ }, h.fits,
      ⟨?_, fun ht => absurd ht hfree, fun _ => hh⟩, fun _ => .fresh rfl rfl rfl hh (Or.inl rfl)⟩
    · rintro n ⟨⟩
      exact hlt
    · rintro n m hn ⟨⟩
      exact h.ordered.reads_lt n hn
    · intro he
      exact absurd he (h.ordered.receiving_iff.mp running)
    · exact fun _ => Or.inr ⟨rfl, by simp [Wiring.connected, Wiring.opened]⟩
  | spawned idle =>
    -- no thread, so no link waits for it and it is in the middle of nothing
    have hrec := h.ordered.ended_of_idle idle
    have hp := h.ordered.pending_of_ended hrec
    have hst : stage = .idle := by
      have := h.fits
      rw [hrec] at this
      cases stage <;> simp_all [Stage.Fits, Receiver.Reads]
    subst hst
    refine ⟨{ hopened.listening hp hlt with }, trivial,
      ⟨?_, fun ht => absurd ht hfree, fun _ => hh⟩,
      fun _ => .fresh rfl rfl rfl hh (Or.inr ⟨hp, rfl, by simp⟩)⟩
    exact fun _ => Or.inr ⟨rfl, by simp [Wiring.connected, Wiring.opened, listening]⟩
  | unspawned idle =>
    have hrec := h.ordered.ended_of_idle idle
    refine ⟨{ hopened.closed with }, h.fits, ⟨?_, fun ht => absurd ht hfree, fun _ => hh⟩,
      fun _ => .of_none rfl (h.ordered.pending_of_ended hrec) rfl⟩
    exact fun _ => Or.inl rfl

/-- Taking the link down leads to a sound channel from any point of a call. -/
lemma Sound.down (h : w.Sound stage caller) (halted : Bool)
    (hfree : caller' = .free ∨ caller' = .joining) :
    ({ w.down with halted, state := .disconnected } : Wiring).Sound stage caller' where
  ordered := { h.ordered.down with }
  fits := h.fits
  shown := by
    refine ⟨fun _ => Or.inl rfl, ?_, ?_⟩
    · rcases hfree with rfl | rfl <;> simp [Caller.IsTaking]
    · rcases hfree with rfl | rfl <;> simp
  held _ := .of_none rfl rfl rfl

/-- Clearing the halt takes no link from anyone. -/
lemma Sound.cleared (h : w.Sound stage caller) (hcalm : ¬ caller.IsTaking)
    (hfree : ¬ (caller'.IsTaking ∨ caller' = .ending)) (hs : caller'.IsPlain → caller.IsPlain) :
    ({ w with halted := false } : Wiring).Sound stage caller' where
  ordered := { h.ordered with }
  fits := h.fits
  shown := ⟨fun hp => h.shown.state (hs hp), fun ht => absurd ht hfree, fun _ => rfl⟩
  held _ :=
    { h.held hcalm with
      current_of_halted := by simp
      pending_of_halted := by simp
      writer_of_halted := by simp }

/-- A call of a handler, or one from outside that is made in one piece. -/
lemma Sound.called (h : w.Sound stage caller) (hc : caller = .free ∨ caller = .joining)
    (hw : w.Called w') : w'.Sound stage caller := by
  have hcalm : ¬ caller.IsTaking := by rcases hc with rfl | rfl <;> exact id
  have hfree : ¬ (caller.IsTaking ∨ caller = .ending) := by
    rcases hc with rfl | rfl <;> simp [Caller.IsTaking]
  cases hw with
  | same => exact h
  | down halted keep => exact h.down halted hc
  | connect tried => exact (h.cleared hcalm hfree id).established hcalm rfl tried hfree

/-- From the halt until the link is taken down, nothing is asked of who holds it. -/
lemma Sound.halted (h : w.Sound stage caller) (ht : caller' = .failed ∨ caller' = .stopping) :
    ({ w with halted := true } : Wiring).Sound stage caller' where
  ordered := { h.ordered with }
  fits := h.fits
  shown := by
    refine ⟨?_, fun _ => rfl, ?_⟩
    · rcases ht with rfl | rfl <;> exact False.elim
    · rcases ht with rfl | rfl <;> simp
  held hcalm := by
    rcases ht with rfl | rfl
    · exact absurd trivial hcalm
    · exact absurd trivial hcalm

/-- `terminate` has set the state, and goes on to take the link down. -/
lemma Sound.halting (h : w.Sound stage .stopping) :
    ({ w with state := .halting } : Wiring).Sound stage .halting where
  ordered := { h.ordered with }
  fits := h.fits
  shown := ⟨False.elim, fun _ => h.shown.halted (Or.inl trivial), by simp⟩
  held hcalm := absurd trivial hcalm

lemma Sound.takenDown (h : w.Sound stage .halting)
    (hc : caller' = .joining ∨ caller' = .ending) : w.down.Sound stage caller' where
  ordered := h.ordered.down
  fits := h.fits
  shown := by
    refine ⟨?_, fun _ => h.shown.halted (Or.inl trivial), ?_⟩
    · rcases hc with rfl | rfl <;> exact False.elim
    · rcases hc with rfl | rfl <;> simp
  held _ := .of_none rfl rfl rfl

/-- `terminate` returns, on a channel without a link. -/
lemma Sound.terminated (h : w.Sound stage caller) (hcalm : ¬ caller.IsTaking)
    (hcur : w.current = none) :
    ({ w with state := .disconnected } : Wiring).Sound stage .free where
  ordered := { h.ordered with }
  fits := h.fits
  shown := ⟨fun _ => Or.inl rfl, by simp [Caller.IsTaking], by simp⟩
  held _ := { h.held hcalm with state_of_current := by simp [hcur] }

/-- A thread that has ended has left no link open. -/
lemma Sound.current_of_ended (h : w.Sound stage caller) (hcalm : ¬ caller.IsTaking)
    (he : w.receiver = .ended) : w.current = none := by
  cases hc : w.current with
  | none => rfl
  | some n =>
    rcases (h.held hcalm).reader_of_current n hc with hp | ⟨-, hr, -⟩
    · simp [h.ordered.pending_of_ended he] at hp
    · simp [he, Receiver.Reads] at hr

/-- A write that has failed has not changed anything yet. -/
lemma Sound.failing (h : w.Sound stage .free) : w.Sound stage .failing where
  ordered := h.ordered
  fits := h.fits
  shown := ⟨fun _ => h.shown.state trivial, by simp [Caller.IsTaking], by simp⟩
  held _ := h.held id

/-! ### The far end -/

lemma source_onOpen (h : w.Ordered) (f : Source → Source) (hc : w.current = some n) (m : Nat) :
    (w.onOpen f).source m = if n = m then f (w.source n) else w.source m := by
  rw [onOpen_of_some hc]
  exact source_set w n m (f (w.source n)) (h.current_lt n hc)

lemma Ordered.onOpen {f : Source → Source} (h : w.Ordered) (hf : ∀ s : Source, s.IsFed → (f s).IsFed) :
    (w.onOpen f).Ordered := by
  cases hc : w.current with
  | none =>
    rw [onOpen_of_none hc]
    exact h
  | some n =>
    have hsource := source_onOpen h f hc
    rw [onOpen_of_some hc] at hsource ⊢
    refine { h with ended := ?_, fed := ?_, current_lt := ?_, pending_lt := ?_, reads_lt := ?_ }
    · intro m hm
      rw [hsource, if_neg fun he : n = m => hm (he ▸ hc)]
      exact h.ended m hm
    · intro m
      rw [hsource]
      split
      · exact hf _ (h.fed n)
      · exact h.fed m
    · simpa using h.current_lt
    · simpa using h.pending_lt
    · simpa using h.reads_lt

lemma Sound.onOpen {f : Source → Source} (h : w.Sound stage caller)
    (hf : ∀ s : Source, s.IsFed → (f s).IsFed) : (w.onOpen f).Sound stage caller := by
  have hord := h.ordered.onOpen hf
  cases hc : w.current with
  | none =>
    rw [onOpen_of_none hc]
    exact h
  | some n =>
    rw [onOpen_of_some hc] at hord ⊢
    exact ⟨hord, h.fits, { h.shown with }, fun hcalm => { h.held hcalm with }⟩

/-! ### The receive thread -/

lemma Held.restage {stage' : Stage} (h : w.Held stage) (hst' : stage' ≠ .leaving) :
    w.Held stage' :=
  { h with
    reader_of_current := fun n hn => by
      rcases h.reader_of_current n hn with hp | ⟨hp, hr, -⟩
      · exact Or.inl hp
      · exact Or.inr ⟨hp, hr, hst'⟩
    writer_of_unread := fun hp hu => by
      rcases hu with hu | hu
      · exact absurd hu hst'
      · exact h.writer_of_unread hp (Or.inr hu) }

/-- A thread that is going to end has no link, or it waits for the next one. -/
lemma Held.leaving (h : w.Held stage) (hl : w.halted = true ∨ ∀ n, ¬ w.receiver.Reads n) :
    w.Held .leaving :=
  { h with
    reader_of_current := fun n hn => by
      rcases hl with hl | hl
      · simp [h.current_of_halted hl] at hn
      · rcases h.reader_of_current n hn with hp | ⟨-, hr, -⟩
        · exact Or.inl hp
        · exact absurd hr (hl n)
    writer_of_unread := fun hp _ => by
      rcases hl with hl | hl
      · exact h.writer_of_halted hl
      · exact h.writer_of_unread hp (Or.inr hl) }

/-- The link that waits is the open one, if there is one; so the thread goes on with that. -/
lemma Held.handed (h : w.Held stage) (hp : w.pending = some n) : (w.handed n).Held .idle where
  state_of_current := h.state_of_current
  writer_of_current := h.writer_of_current
  reader_of_current m hm := by
    rcases h.reader_of_current m hm with hm | ⟨hm, -⟩
    · obtain rfl : n = m := by simpa [hp] using hm
      exact Or.inr ⟨rfl, rfl, by simp⟩
    · simp [hp] at hm
  current_of_halted := h.current_of_halted
  pending_of_halted _ := rfl
  writer_of_halted := h.writer_of_halted
  writer_of_pending := by simp [Wiring.handed, Wiring.listening]
  writer_of_unread _ hu := by
    rcases hu with hu | hu
    · simp at hu
    · exact absurd rfl (hu n)

lemma Shown.disconnected (h : w.Shown caller) (hs : w'.state = .disconnected)
    (hh : w'.halted = w.halted) : w'.Shown caller :=
  ⟨fun _ => Or.inl hs, hh ▸ h.halted, hh ▸ h.clear⟩

section Read

variable {scanner scanner' : Scanner} {seen seen' : ScanTally} {source : Source} {stage' : Stage}

/-- The wiring after a link was read. -/
def readOn (w : Wiring) (n : Nat) (source : Source) (scanner : Scanner) (seen : ScanTally) : Wiring :=
  { w with
    sources := w.sources.set n source
    receiver := .reading n scanner seen }

lemma Ordered.read (h : w.Ordered) (hr : w.receiver = .reading n scanner seen) (hfed : source.IsFed)
    (hended : w.current ≠ some n → source = Source.ended) :
    (w.readOn n source scanner' seen').Ordered := by
  have hreads : w.receiver.Reads n := by
    rw [hr]
    rfl
  have hlt : n < w.sources.length := h.reads_lt n hreads
  have hsource (m : Nat) : (w.readOn n source scanner' seen').source m =
      if n = m then source else w.source m := source_set w n m source hlt
  exact
    { leaves := h.leaves
      ended := fun m hm => by
        rw [hsource]
        split
        · next hnm => exact hended (hnm ▸ hm)
        · exact h.ended m hm
      fed := fun m => by
        rw [hsource]
        split
        · exact hfed
        · exact h.fed m
      current_lt := by simpa [readOn] using h.current_lt
      pending_lt := by simpa [readOn] using h.pending_lt
      reads_lt := by
        rintro m rfl
        simpa [readOn] using hlt
      reads_lt_pending := by
        rintro m k rfl hk
        exact h.reads_lt_pending n k hreads hk
      receiving_iff := by
        have := h.receiving_iff
        simpa [readOn, hr] using this
      pending_of_ended := by simp [readOn] }

lemma Held.read (h : w.Held stage') (hr : w.receiver = .reading n scanner seen)
    (hst : stage' ≠ .leaving) : (w.readOn n source scanner' seen').Held stage' :=
  { h with
    reader_of_current := fun m hm => by
      rcases h.reader_of_current m hm with hp | ⟨hp, hm', -⟩
      · exact Or.inl hp
      · rw [hr] at hm'
        exact Or.inr ⟨hp, hm', hst⟩
    writer_of_unread := fun hp hu => by
      rcases hu with hu | hu
      · exact absurd hu hst
      · exact absurd rfl (hu n) }

/-- Reading changes what is queued on the link that is read, and nothing else. -/
lemma Sound.read (h : w.Sound .idle caller) (hr : w.receiver = .reading n scanner seen)
    (hfed : source.IsFed) (hended : w.current ≠ some n → source = Source.ended)
    (hst : stage' ≠ .leaving) (hfits : stage'.Fits (.reading n scanner' seen')) :
    (w.readOn n source scanner' seen').Sound stage' caller where
  ordered := h.ordered.read hr hfed hended
  fits := hfits
  shown := { h.shown with }
  held hcalm := ((h.held hcalm).restage hst).read hr hst

end Read

lemma Sound.noted (h : w.Sound stage caller) (f? : Option Frame) :
    ({ w with last := f? } : Wiring).Sound stage caller :=
  ⟨{ h.ordered with }, h.fits, { h.shown with }, fun hcalm => { h.held hcalm with }⟩

/-- After a failed read the thread is going to end if the channel is halted. -/
lemma Sound.looked (h : w.Sound .failed caller) :
    w.Sound (if w.halted then .leaving else .lost) caller := by
  split
  · next hh =>
    refine ⟨h.ordered, ?_, h.shown, fun hcalm => (h.held hcalm).leaving (Or.inl hh)⟩
    obtain ⟨n, hn⟩ := h.fits
    intro he
    simp [he, Receiver.Reads] at hn
  · exact ⟨h.ordered, h.fits, h.shown, fun hcalm => (h.held hcalm).restage (by simp)⟩

/-- A thread in its delay is going to end. -/
lemma Sound.givenUp {k : Nat} (h : w.Sound stage caller) (hr : w.receiver = .waiting k) :
    w.Sound .leaving caller where
  ordered := h.ordered
  fits := by simp [Stage.Fits, hr]
  shown := h.shown
  held hcalm := (h.held hcalm).leaving (Or.inr fun n hn => by simp [hr, Receiver.Reads] at hn)

lemma Sound.restage {stage' : Stage} (h : w.Sound stage caller) (hst : stage' ≠ .leaving)
    (hfits : stage'.Fits w.receiver) : w.Sound stage' caller :=
  ⟨h.ordered, hfits, h.shown, fun hcalm => (h.held hcalm).restage hst⟩

/-- The thread takes up the waiting link, and is about to read it. -/
lemma Sound.handed (h : w.Sound stage caller) (hp : w.pending = some n) :
    (w.handed n).Sound .idle caller where
  ordered := h.ordered.handed hp
  fits := trivial
  shown := { h.shown with }
  held hcalm := (h.held hcalm).handed hp

lemma Sound.receiving (h : w.Sound stage caller) (hst : stage ≠ .idle) : w.receiving = true := by
  refine h.ordered.receiving_iff.mpr fun he => ?_
  have hfits := h.fits
  rw [he] at hfits
  cases stage <;> simp_all [Stage.Fits, Receiver.Reads]

/-- The thread has lost its link and closes what is open. -/
lemma Sound.lost (h : w.Sound .lost caller) (hp : w.pending = none) :
    ({ w.closed with
      writer := none, state := .disconnected, receiver := .waiting 0 } : Wiring).Sound .idle
      caller where
  ordered := { h.ordered.closed.waiting (h.receiving (by simp)) 0 with }
  fits := trivial
  shown := h.shown.disconnected rfl rfl
  held _ := .of_none rfl hp rfl

/-- An attempt to reconnect opens a link, or leaves the thread in its delay. -/
lemma Sound.attempted {k : Nat} (h : w.Sound (.attempting k) caller) (hp : w.pending = none)
    (hgo : w.halted = false ∨ caller.IsTaking)
    (hw : w' = w.connected.listening w.sources.length ∨
      w' = { w.closed with state := .disconnected, receiver := .waiting (k + 1) }) :
    w'.Sound .idle caller := by
  have hrun := h.receiving (by simp)
  have hlt : w.sources.length < w.opened.sources.length := by simp [Wiring.opened]
  rcases hw with rfl | rfl
  · refine ⟨{ h.ordered.opened.listening hp hlt with receiving_iff := ?_ }, trivial,
      ⟨?_, h.shown.halted, h.shown.clear⟩, fun hcalm => ?_⟩
    · exact ⟨by simp [Wiring.listening], fun _ => hrun⟩
    · exact fun _ => Or.inr ⟨rfl, by simp [Wiring.connected, Wiring.opened, Wiring.listening]⟩
    · rcases hgo with hh | ht
      · exact .fresh rfl rfl rfl hh (Or.inr ⟨hp, rfl, by simp⟩)
      · exact absurd ht hcalm
  · have hord := h.ordered.closed.waiting hrun (k + 1)
    refine ⟨{ hord with }, trivial, h.shown.disconnected rfl rfl, fun hcalm => .of_none rfl hp ?_⟩
    refine (h.held hcalm).writer_of_unread hp (Or.inr fun n hn => ?_)
    have hfits : w.receiver = .waiting k := h.fits
    simp [hfits, Receiver.Reads] at hn

/-- A link is opened and closed again, for a halt that was set meanwhile. -/
lemma Sound.aborted {k : Nat} (h : w.Sound (.attempting k) caller) (ht : caller.IsTaking) :
    ({ w.opened.closed with state := .connecting } : Wiring).Sound .leaving caller where
  ordered := { h.ordered.opened.closed with }
  fits := h.ordered.receiving_iff.mp (h.receiving (by simp))
  shown := by
    refine ⟨fun hp => ?_, h.shown.halted, h.shown.clear⟩
    cases caller <;> simp_all [Caller.IsPlain, Caller.IsTaking]
  held hcalm := absurd ht hcalm

/-- The thread ends. -/
lemma Sound.retired (h : w.Sound .leaving caller) (hl : w.halted = true ∨ w.pending = none) :
    w.retired.Sound .idle caller where
  ordered := { h.ordered.finished with }
  fits := trivial
  shown := by
    refine ⟨fun hp => Or.inl ?_, h.shown.halted, h.shown.clear⟩
    have hs := h.shown.state hp
    simp only [Wiring.retired]
    split
    · next hh => simp [hh] at hs
    · rfl
  held hcalm := by
    have hheld := h.held hcalm
    rcases hl with hh | hp
    · exact .of_none (hheld.current_of_halted hh) rfl (hheld.writer_of_halted hh)
    · refine .of_none ?_ rfl (hheld.writer_of_unread hp (Or.inl rfl))
      change w.current = none
      cases hc : w.current with
      | none => rfl
      | some n =>
        rcases hheld.reader_of_current n hc with hw | ⟨-, -, hst⟩
        · simp [hp] at hw
        · exact absurd rfl hst

/-- The thread is unwound by a panic. -/
lemma Sound.abandoned (h : w.Sound stage caller) :
    ({ w.down with
      state := .disconnected, receiving := false, receiver := .ended } : Wiring).Sound .idle
      caller where
  ordered := { h.ordered.down.finished with }
  fits := trivial
  shown := h.shown.disconnected rfl rfl
  held _ := .of_none rfl rfl rfl

end Wiring

end FrameLink
